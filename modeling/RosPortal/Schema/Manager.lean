import Mathlib.Data.List.AList
import RosPortal.Interleaving.ThreadPool

/-! Schemas of data tracks: rendering, registration with the local participant by
any number of concurrent callers, and validation of what a remote track advertises. -/

set_option autoImplicit false

namespace RosPortal.Schema

open Interleaving

inductive OutboundEncoding where
  | ros2Msg
  | ros2Idl
  | jsonSchema
deriving DecidableEq, Repr

/-- The SDK's schema encodings; `other` stands for those ROS Portal does not use. -/
inductive DataTrackSchemaEncoding where
  | ros2Msg
  | ros2Idl
  | jsonSchema
  | other (tag : Nat)
deriving DecidableEq, Repr

/-- The SDK's frame encodings; `other` stands for those ROS Portal does not use. -/
inductive DataTrackFrameEncoding where
  | cdr
  | json
  | other (tag : Nat)
deriving DecidableEq, Repr

structure DataTrackSchemaId where
  name : String
  encoding : DataTrackSchemaEncoding
deriving DecidableEq, Repr

structure RosMessageSchema where
  encoding : String
  text : String
deriving DecidableEq, Repr

structure Renderers where
  renderSchema : String → Option RosMessageSchema
  renderJsonSchema : String → Option String

def schemaEncodingFromRosDefinition (encoding : String) : Option DataTrackSchemaEncoding :=
  if encoding = "ros2idl" then some .ros2Idl
  else if encoding = "ros2msg" then some .ros2Msg
  else none

def schemaDedupeKey (topicType encoding : String) : String := encoding ++ "\n" ++ topicType

/-- What `ensureSchemaDefined` has worked out before it takes the lock: its two
arguments, the text to define and the two encodings that name it. -/
structure DefinitionRequest where
  topicType : String
  encoding : OutboundEncoding
  schemaText : String
  schemaEncoding : DataTrackSchemaEncoding
  dedupeEncoding : String
deriving DecidableEq, Repr

def DefinitionRequest.schemaId (request : DefinitionRequest) : DataTrackSchemaId :=
  ⟨request.topicType, request.schemaEncoding⟩

def DefinitionRequest.dedupeKey (request : DefinitionRequest) : String :=
  schemaDedupeKey request.topicType request.dedupeEncoding

/-- Why `ensureSchemaDefined` gives up before it takes the lock. -/
inductive RenderFailure where
  | jsonSchemaUnavailable
  | rosSchemaUnavailable
  | unsupportedEncoding (encoding : String)
  | encodingMismatch (encoding : String)
deriving DecidableEq, Repr

/-- The part of `ensureSchemaDefined` before the lock, on what the renderers returned. -/
def requestDefinition (topicType : String) (encoding : OutboundEncoding)
    (renderedJson : Option String) (rendered : Option RosMessageSchema) :
    Except RenderFailure DefinitionRequest :=
  if encoding = .jsonSchema then
    match renderedJson with
    | none => .error .jsonSchemaUnavailable
    | some text => .ok ⟨topicType, encoding, text, .jsonSchema, "jsonschema"⟩
  else
    match rendered with
    | none => .error .rosSchemaUnavailable
    | some schema =>
        match schemaEncodingFromRosDefinition schema.encoding with
        | none => .error (.unsupportedEncoding schema.encoding)
        | some renderedEncoding =>
            -- An explicit ros2idl request must render as ros2idl; ros2msg takes either.
            if encoding = .ros2Idl ∧ renderedEncoding ≠ .ros2Idl then
              .error (.encodingMismatch schema.encoding)
            else
              .ok ⟨topicType, encoding, schema.text, renderedEncoding, schema.encoding⟩

inductive Outcome where
  | returned (accepted : Bool)
  | threwException
  | threwOther
deriving DecidableEq, Repr

def Outcome.defined : Outcome → Bool
  | .returned accepted => accepted
  | .threwException | .threwOther => false

structure DefinitionState (Hash : Type) where
  hash : Hash
  defined : Bool
deriving DecidableEq, Repr

inductive DefineEvent where
  | started (request : DefinitionRequest)
  | finished (request : DefinitionRequest) (outcome : Outcome)
deriving DecidableEq, Repr

/-- The state behind `defined_schemas_mutex_`, the count of `notify_all` calls, and
the record of `define_schema` calls, newest first. -/
structure Registry (Hash : Type) where
  definedSchemas : AList fun _ : String => DefinitionState Hash
  notifications : Nat
  calls : List DefineEvent

/-- Where a caller of `ensureSchemaDefined` stands. A caller in `waiting` was
blocked when `since` notifications had been sent. `lost` is the unchecked lookup
after the call finding no entry. -/
inductive Control where
  | idle
  | locking (request : DefinitionRequest)
  | waiting (request : DefinitionRequest) (since : Nat)
  | calling (request : DefinitionRequest)
  | inFlight (request : DefinitionRequest)
  | recording (request : DefinitionRequest) (outcome : Outcome)
  | returned (request : DefinitionRequest) (result : Option DataTrackSchemaId)
  | notRendered (failure : RenderFailure)
  | lost (request : DefinitionRequest)
deriving DecidableEq, Repr

/-- What the environment decides: the arguments and renderings of a new call, when
a thread goes on or wakes up, and how a `define_schema` call ends. -/
inductive Choice where
  | call (topicType : String) (encoding : OutboundEncoding) (renderedJson : Option String)
      (rendered : Option RosMessageSchema)
  | proceed
  | finish (outcome : Outcome)
deriving DecidableEq, Repr

section Program

variable {Hash : Type} [DecidableEq Hash] (hashSchemaText : String → Hash)

/-- One pass of the loop under the lock. -/
def claim (registry : Registry Hash) (request : DefinitionRequest) : Registry Hash × Control :=
  match registry.definedSchemas.lookup request.dedupeKey with
  | none =>
      ({ registry with
          definedSchemas := registry.definedSchemas.insert request.dedupeKey
            ⟨hashSchemaText request.schemaText, false⟩ }, .calling request)
  | some existing =>
      if existing.hash ≠ hashSchemaText request.schemaText then (registry, .returned request none)
      else if existing.defined then (registry, .returned request (some request.schemaId))
      else (registry, .waiting request registry.notifications)

/-- The second critical section, followed by `notify_all`. -/
def recordOutcome (registry : Registry Hash) (request : DefinitionRequest) (outcome : Outcome) :
    Registry Hash × Control :=
  match registry.definedSchemas.lookup request.dedupeKey with
  | none => (registry, .lost request)
  | some state =>
      if outcome.defined then
        ({ registry with
            definedSchemas := registry.definedSchemas.insert request.dedupeKey
              { state with defined := true }
            notifications := registry.notifications + 1 },
          .returned request (some request.schemaId))
      else
        ({ registry with
            definedSchemas := registry.definedSchemas.erase request.dedupeKey
            notifications := registry.notifications + 1 },
          .returned request none)

def beginCall (topicType : String) (encoding : OutboundEncoding) (renderedJson : Option String)
    (rendered : Option RosMessageSchema) : Control :=
  match requestDefinition topicType encoding renderedJson rendered with
  | .error failure => .notRendered failure
  | .ok request => .locking request

/-- One step of a caller: a critical section, or the start or the end of its
`define_schema` call. A blocked caller may wake up at any time. -/
def advance (registry : Registry Hash) (control : Control) (choice : Choice) :
    Option (Registry Hash × Control) :=
  match control, choice with
  | .idle, .call topicType encoding renderedJson rendered
  | .returned _ _, .call topicType encoding renderedJson rendered
  | .notRendered _, .call topicType encoding renderedJson rendered =>
      some (registry, beginCall topicType encoding renderedJson rendered)
  | .locking request, .proceed => some (claim hashSchemaText registry request)
  | .waiting request _, .proceed => some (registry, .locking request)
  | .calling request, .proceed =>
      some ({ registry with calls := .started request :: registry.calls }, .inFlight request)
  | .inFlight request, .finish outcome =>
      some ({ registry with calls := .finished request outcome :: registry.calls },
        .recording request outcome)
  | .recording request outcome, .proceed => some (recordOutcome registry request outcome)
  | _, _ => none

abbrev Config (Hash : Type) := Pool (Registry Hash) Control

def program : Program (Registry Hash) Control Choice := ⟨advance hashSchemaText⟩

def initial (Hash : Type) (threads : Nat) : Config Hash :=
  ⟨⟨∅, 0, []⟩, List.replicate threads .idle⟩

end Program

section Validation

variable {Hash : Type} [DecidableEq Hash] (hashSchemaText : String → Hash)

inductive Retrieval where
  | returned (text : Option String)
  | threwException (what : String)
  | threwOther
deriving DecidableEq, Repr

structure InboundSchemaContext where
  trackName : String
  participantIdentity : String
  topicType : String
  schema : Option DataTrackSchemaId
  frameEncoding : Option DataTrackFrameEncoding
deriving DecidableEq, Repr

inductive RejectionCounter where
  | noEncoding
  | nameMismatch
  | remoteUnavailable
  | definitionDiffers
deriving DecidableEq, Repr

inductive Verdict where
  | accepted
  | rejected (counter : RejectionCounter) (reason : String)
deriving DecidableEq, Repr

/-- The checks of a schema that has to be fetched and compared. -/
def validateDefinition (renderSchema : String → Option RosMessageSchema)
    (getSchema : DataTrackSchemaId → String → Retrieval) (context : InboundSchemaContext)
    (schemaId : DataTrackSchemaId) : Verdict :=
  match getSchema schemaId context.participantIdentity with
  | .threwException what =>
      .rejected .remoteUnavailable ("remote schema retrieval failed: " ++ what)
  | .threwOther =>
      .rejected .remoteUnavailable "remote schema retrieval failed with an unknown error"
  | .returned none =>
      .rejected .remoteUnavailable "remote schema retrieval failed: schema is unavailable"
  | .returned (some remoteSchemaText) =>
      match renderSchema context.topicType with
      | none => .rejected .definitionDiffers "local ROS schema could not be rendered"
      | some localSchema =>
          if ¬ ((schemaId.encoding = .ros2Msg ∧ localSchema.encoding = "ros2msg") ∨
              (schemaId.encoding = .ros2Idl ∧ localSchema.encoding = "ros2idl")) then
            .rejected .definitionDiffers "remote and local schema encodings differ"
          else if hashSchemaText remoteSchemaText ≠ hashSchemaText localSchema.text ∨
              remoteSchemaText ≠ localSchema.text then
            .rejected .definitionDiffers "remote and local schema definitions differ"
          else .accepted

def validateInboundSchema (renderSchema : String → Option RosMessageSchema)
    (getSchema : DataTrackSchemaId → String → Retrieval) (context : InboundSchemaContext) :
    Verdict :=
  match context.frameEncoding with
  | none => .rejected .noEncoding "track does not advertise a frame encoding"
  | some frameEncoding =>
      if frameEncoding ≠ .cdr ∧ frameEncoding ≠ .json then
        .rejected .noEncoding "track frame encoding is not CDR or JSON"
      else
        match context.schema with
        | none => .rejected .noEncoding "track does not advertise a schema"
        | some schemaId =>
            if schemaId.name ≠ context.topicType then
              .rejected .nameMismatch ("track schema name '" ++ schemaId.name ++
                "' does not match local ROS type '" ++ context.topicType ++ "'")
            else if schemaId.encoding = .jsonSchema then
              if frameEncoding ≠ .json then
                .rejected .noEncoding "JsonSchema tracks require JSON frame encoding"
              else if renderSchema context.topicType = none then
                .rejected .definitionDiffers "local ROS schema could not be rendered"
              else .accepted
            else if schemaId.encoding ≠ .ros2Msg ∧ schemaId.encoding ≠ .ros2Idl then
              .rejected .noEncoding "track schema encoding is not ros2msg or ros2idl"
            else validateDefinition hashSchemaText renderSchema getSchema context schemaId

end Validation

/-- The frame encoding that `publish_data_track` advertises for a schema. -/
def publishedFrameEncoding (schemaId : DataTrackSchemaId) : DataTrackFrameEncoding :=
  if schemaId.encoding = .jsonSchema then .json else .cdr

end RosPortal.Schema
