import RosPortal.Latched.Network

/-! The type under which inbound latched state is republished. The publisher of a topic is
created by the first request that can create it, and serves every later one. -/

set_option autoImplicit false

namespace RosPortal.Latched

/-- A request as it arrives, parsed, and what ROS makes of it. -/
structure IncomingRequest where
  payload : Except String Request
  outcome : RosOutcome := {}

variable (options : Options)

/-- The request of an arrival that gets as far as the publishers, with its decoded bytes. -/
def IncomingRequest.admitted (arrival : IncomingRequest) : Option (Request × List UInt8) :=
  match arrival.payload with
  | .error _ => none
  | .ok request =>
      if request.topic ∈ options.inboundTopics then
        (base64Decode request.data).map fun decoded => (request, decoded)
      else none

def handle (publishers : InboundPublishers) (arrival : IncomingRequest) : Handled :=
  handleLatchedStateRpc options publishers arrival.payload arrival.outcome

def publishersAfter (arrivals : List IncomingRequest) : InboundPublishers :=
  arrivals.foldl (fun publishers arrival => (handle options publishers arrival).publishers) []

/-- The type for which an arrival creates the publisher of the topic, if there is none yet. -/
def IncomingRequest.opens (topic : String) (arrival : IncomingRequest) : Option String :=
  match arrival.admitted options with
  | some (request, _) =>
      if request.topic = topic ∧ arrival.outcome.createFailure = none ∧
          arrival.outcome.invalidHandle = false then some request.msgType
      else none
  | none => none

/-- A request answered with success was published under its own type, any other not at all. -/
def Faithful (arrival : IncomingRequest) (handled : Handled) : Prop :=
  if handled.response.success then
    ∃ request decoded, arrival.payload = .ok request ∧ base64Decode request.data = some decoded ∧
      handled.publication = some ⟨.inbound, request.topic, request.msgType, decoded⟩
  else handled.publication = none

/-- Every request is handled faithfully where it stands in the sequence. -/
def KeepsTypes (arrivals : List IncomingRequest) : Prop :=
  ∀ before arrival after, arrivals = before ++ arrival :: after →
    Faithful arrival (handle options (publishersAfter options before) arrival)

/-- No request is published after one that created the publisher of its topic for another type. -/
def OneTypePerTopic (arrivals : List IncomingRequest) : Prop :=
  ∀ before arrival after, arrivals = before ++ arrival :: after →
    ∀ request decoded, arrival.admitted options = some (request, decoded) →
      arrival.outcome.publishFailure = none →
      ∀ type, before.findSome? (IncomingRequest.opens options request.topic) = some type →
        type = request.msgType

variable {options}

theorem handle_of_refused (publishers : InboundPublishers) {arrival : IncomingRequest}
    (refused : arrival.admitted options = none) :
    ∃ reason, handle options publishers arrival = reject publishers reason := by
  cases payload : arrival.payload with
  | error what =>
      refine ⟨"malformed latched-state request: " ++ what, ?_⟩
      simp only [handle, handleLatchedStateRpc, payload]
  | ok request =>
      by_cases accepted : request.topic ∈ options.inboundTopics
      · have undecoded : base64Decode request.data = none := by
          simpa [IncomingRequest.admitted, payload, accepted] using refused
        refine ⟨"invalid base64 payload for '" ++ request.topic ++ "'", ?_⟩
        simp only [handle, handleLatchedStateRpc, payload, accepted, not_true, if_false, undecoded]
      · refine ⟨"topic '" ++ request.topic ++ "' is not a configured inbound latched topic", ?_⟩
        simp only [handle, handleLatchedStateRpc, payload, accepted, not_false_eq_true, if_true]

/-- What becomes of a request that is admitted. -/
def answerAdmitted (publishers : InboundPublishers) (request : Request) (decoded : List UInt8)
    (outcome : RosOutcome) : Handled :=
  match openPublisher publishers request outcome with
  | .error reason => reject publishers reason
  | .ok (opened, type) =>
      match outcome.publishFailure with
      | some what => reject opened ("failed to publish '" ++ request.topic ++ "': " ++ what)
      | none =>
          { response := ⟨true, "", ""⟩, publishers := opened
            publication := some ⟨.inbound, request.topic, type, decoded⟩ }

theorem handle_of_admitted (publishers : InboundPublishers) {arrival : IncomingRequest} {request : Request}
    {decoded : List UInt8} (admitted : arrival.admitted options = some (request, decoded)) :
    arrival.payload = .ok request ∧ base64Decode request.data = some decoded ∧
      handle options publishers arrival = answerAdmitted publishers request decoded arrival.outcome := by
  cases payload : arrival.payload with
  | error what => simp [IncomingRequest.admitted, payload] at admitted
  | ok found =>
      by_cases accepted : found.topic ∈ options.inboundTopics
      · simp only [IncomingRequest.admitted, payload, if_pos accepted, Option.map_eq_some_iff,
          Prod.mk.injEq] at admitted
        obtain ⟨_, decodes, rfl, rfl⟩ := admitted
        refine ⟨rfl, decodes, ?_⟩
        simp only [handle, handleLatchedStateRpc, payload, accepted, not_true, if_false, decodes]
        rfl
      · simp [IncomingRequest.admitted, payload, accepted] at admitted

theorem openPublisher_cases (publishers : InboundPublishers) (request : Request) (outcome : RosOutcome) :
    (∃ type, publishers.lookup request.topic = some type ∧
        openPublisher publishers request outcome = .ok (publishers, type)) ∨
      (publishers.lookup request.topic = none ∧
        (outcome.createFailure = none ∧ outcome.invalidHandle = false) ∧
        openPublisher publishers request outcome =
          .ok ((request.topic, request.msgType) :: publishers, request.msgType)) ∨
      (publishers.lookup request.topic = none ∧
        ¬ (outcome.createFailure = none ∧ outcome.invalidHandle = false) ∧
        ∃ reason, openPublisher publishers request outcome = .error reason) := by
  cases known : publishers.lookup request.topic with
  | some type => exact .inl ⟨type, rfl, by simp only [openPublisher, known]⟩
  | none =>
      right
      cases created : outcome.createFailure with
      | some what =>
          refine .inr ⟨rfl, by simp, ?_⟩
          simp [openPublisher, known, created]
      | none =>
          cases handle : outcome.invalidHandle with
          | true =>
              refine .inr ⟨rfl, by simp, ?_⟩
              simp [openPublisher, known, created, handle]
          | false => exact .inl ⟨rfl, ⟨rfl, rfl⟩, by simp [openPublisher, known, created, handle]⟩

theorem lookup_handle (publishers : InboundPublishers) (arrival : IncomingRequest) (topic : String) :
    (handle options publishers arrival).publishers.lookup topic =
      (publishers.lookup topic).or (arrival.opens options topic) := by
  cases admitted : arrival.admitted options with
  | none =>
      obtain ⟨reason, handled⟩ := handle_of_refused publishers admitted
      simp [handled, reject, IncomingRequest.opens, admitted]
  | some pair =>
      obtain ⟨request, decoded⟩ := pair
      obtain ⟨_, _, handled⟩ := handle_of_admitted publishers admitted
      have kept : ∀ opened type, openPublisher publishers request arrival.outcome = .ok (opened, type) →
          (handle options publishers arrival).publishers = opened := by
        intro opened type opens
        rw [handled, answerAdmitted, opens]
        cases arrival.outcome.publishFailure <;> rfl
      by_cases same : request.topic = topic
      · subst same
        rcases openPublisher_cases publishers request arrival.outcome with
          ⟨type, known, opens⟩ | ⟨unknown, possible, opens⟩ | ⟨unknown, impossible, reason, opens⟩
        · simp [kept _ _ opens, known]
        · simp [kept _ _ opens, unknown, IncomingRequest.opens, admitted, possible]
        · have unopened : arrival.opens options request.topic = none := by
            simp only [IncomingRequest.opens, admitted, true_and, if_neg impossible]
          simp [handled, answerAdmitted, opens, reject, unopened]
      · have other : arrival.opens options topic = none := by
          simp [IncomingRequest.opens, admitted, same]
        rw [other, Option.or_none]
        rcases openPublisher_cases publishers request arrival.outcome with
          ⟨type, _, opens⟩ | ⟨_, _, opens⟩ | ⟨_, _, reason, opens⟩
        · rw [kept _ _ opens]
        · rw [kept _ _ opens, List.lookup_cons, beq_false_of_ne (Ne.symm same)]
        · simp [handled, answerAdmitted, opens, reject]

theorem lookup_publishersAfter (arrivals : List IncomingRequest) (topic : String) :
    (publishersAfter options arrivals).lookup topic =
      arrivals.findSome? (IncomingRequest.opens options topic) := by
  have general : ∀ publishers : InboundPublishers,
      (arrivals.foldl (fun publishers arrival => (handle options publishers arrival).publishers)
        publishers).lookup topic =
      (publishers.lookup topic).or (arrivals.findSome? (IncomingRequest.opens options topic)) := by
    induction arrivals with
    | nil => simp
    | cons arrival arrivals ih =>
        intro publishers
        rw [List.foldl_cons, ih, lookup_handle, List.findSome?_cons, Option.or_assoc]
        cases arrival.opens options topic <;> rfl
  simpa [publishersAfter] using general []

/-- One request is handled faithfully unless it is published through a publisher that was
created for another type. -/
theorem faithful_handle_iff (publishers : InboundPublishers) (arrival : IncomingRequest) :
    Faithful arrival (handle options publishers arrival) ↔
      ∀ request decoded, arrival.admitted options = some (request, decoded) →
        arrival.outcome.publishFailure = none →
        ∀ type, publishers.lookup request.topic = some type → type = request.msgType := by
  cases admitted : arrival.admitted options with
  | none =>
      obtain ⟨reason, handled⟩ := handle_of_refused publishers admitted
      simp [Faithful, handled, reject]
  | some pair =>
      obtain ⟨request, decoded⟩ := pair
      obtain ⟨payload, decodes, handled⟩ := handle_of_admitted publishers admitted
      rcases openPublisher_cases publishers request arrival.outcome with
        ⟨type, known, opens⟩ | ⟨unknown, _, opens⟩ | ⟨unknown, _, reason, opens⟩
      · cases publish : arrival.outcome.publishFailure with
        | some what => simp [Faithful, handled, answerAdmitted, opens, publish, reject]
        | none =>
            constructor
            · intro faithful otherRequest otherDecoded same _ otherType found
              cases same
              cases known.symm.trans found
              simp only [Faithful, handled, answerAdmitted, opens, publish, if_true] at faithful
              obtain ⟨found, bytes, samePayload, _, published⟩ := faithful
              cases payload.symm.trans samePayload
              cases published
              rfl
            · intro typed
              have same := typed request decoded rfl rfl type known
              simp only [Faithful, handled, answerAdmitted, opens, publish, if_true]
              exact ⟨request, decoded, payload, decodes, by rw [same]⟩
      · cases publish : arrival.outcome.publishFailure with
        | some what => simp [Faithful, handled, answerAdmitted, opens, publish, reject]
        | none =>
            have faithful : Faithful arrival (handle options publishers arrival) := by
              simp only [Faithful, handled, answerAdmitted, opens, publish, if_true]
              exact ⟨request, decoded, payload, decodes, rfl⟩
            simp [faithful, unknown]
      · simp [Faithful, handled, answerAdmitted, opens, reject, unknown]

/-- Republication keeps the types of all requests exactly when no topic changes its type. -/
theorem republication_keeps_types_iff (options : Options) (arrivals : List IncomingRequest) :
    KeepsTypes options arrivals ↔ OneTypePerTopic options arrivals := by
  simp only [KeepsTypes, OneTypePerTopic, faithful_handle_iff, lookup_publishersAfter]

/-- Two peers latch the topic with different types, and the second is told that it succeeded. -/
theorem second_type_republished_as_first :
    ¬ ∀ (options : Options) (arrivals : List IncomingRequest), KeepsTypes options arrivals := by
  intro keeps
  have second := keeps { inboundTopics := ["/map"] }
    [{ payload := .ok ⟨"/map", "nav_msgs/msg/OccupancyGrid", "AQID"⟩ },
      { payload := .ok ⟨"/map", "std_msgs/msg/String", "AQID"⟩ }]
    [{ payload := .ok ⟨"/map", "nav_msgs/msg/OccupancyGrid", "AQID"⟩ }]
    { payload := .ok ⟨"/map", "std_msgs/msg/String", "AQID"⟩ } [] rfl
  rw [faithful_handle_iff] at second
  exact absurd (second _ _ rfl rfl "nav_msgs/msg/OccupancyGrid" (by decide +kernel)) (by decide)

end RosPortal.Latched
