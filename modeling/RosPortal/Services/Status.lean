import RosPortal.Connection.RtcSummary
import RosPortal.Services.Forwarder

/-! The services that a forwarder creates for its routes, and the status that it reports of them
and of the requests that it has handled. -/

set_option autoImplicit false

namespace RosPortal.Services

open JsonText Cli Accounting
open RosPortal.Connection.Diagnostics (Level DiagnosticStatus)

/-- The creation of a service: of its type support, and of the service beside those there are. -/
structure ServiceCreation where
  typeSupport : Bytes → Except Bytes Unit
  createService : List ServiceRoute → ServiceRoute → Except Bytes Unit

structure ServiceForwarder where
  routesConfigured : Nat
  routeFailures : Nat := 0
  services : List ServiceRoute := []
deriving DecidableEq, Repr

section Construction

variable (creation : ServiceCreation)

def createService (forwarder : ServiceForwarder) (route : ServiceRoute) : ServiceForwarder :=
  let failed := { forwarder with routeFailures := forwarder.routeFailures + 1 }
  if route.service = [] then failed
  else if route.msgType = [] then failed
  else if route.participant = [] then failed
  else
    match creation.typeSupport route.msgType with
    | .error _ => failed
    | .ok _ =>
        match creation.createService forwarder.services route with
        -- the exception is logged and not counted
        | .error _ => forwarder
        | .ok _ => { forwarder with services := forwarder.services ++ [route] }

def construct (routes : List ServiceRoute) : ServiceForwarder :=
  routes.foldl (createService creation) { routesConfigured := routes.length }

end Construction

def level (forwarder : ServiceForwarder) (state : DiagnosticState) : Level :=
  if forwarder.services.length ≠ forwarder.routesConfigured then .error
  else if 0 < state.requestFailures ∨ 0 < state.responseFailures ∨ 0 < state.handlerExceptions then .warn
  else .ok

def message : Level → String
  | .error => "One or more configured service routes are unavailable"
  | .warn => "Service forwarding failures detected"
  | .ok => "Service forwarding healthy"

def shownFailure (state : DiagnosticState) : String :=
  if state.lastFailureReason = "" then "none" else state.lastFailureReason

def populateStatus (forwarder : ServiceForwarder) (state : DiagnosticState) : DiagnosticStatus where
  level := level forwarder state
  message := message (level forwarder state)
  values :=
    [("routes_configured", toString forwarder.routesConfigured),
      ("services_created", toString forwarder.services.length),
      ("route_failures", toString forwarder.routeFailures),
      ("requests_succeeded", toString state.requestsSucceeded),
      ("request_failures", toString state.requestFailures),
      ("response_failures", toString state.responseFailures),
      ("handler_exceptions", toString state.handlerExceptions),
      ("last_failure_reason", shownFailure state)]

section Routes

/-- The route gets a service when it is created beside the services of these. -/
def Creatable (creation : ServiceCreation) (services : List ServiceRoute) (route : ServiceRoute) : Prop :=
  route.service ≠ [] ∧ route.msgType ≠ [] ∧ route.participant ≠ [] ∧
    creation.typeSupport route.msgType = .ok () ∧ creation.createService services route = .ok ()

theorem createService_cases (creation : ServiceCreation) (forwarder : ServiceForwarder) (route : ServiceRoute) :
    (createService creation forwarder route).routesConfigured = forwarder.routesConfigured ∧
      ((Creatable creation forwarder.services route ∧
          (createService creation forwarder route).services = forwarder.services ++ [route]) ∨
        (¬ Creatable creation forwarder.services route ∧
          (createService creation forwarder route).services = forwarder.services)) := by
  unfold createService Creatable
  split_ifs with service msgType participant
  · exact ⟨rfl, .inr ⟨by simp [service], rfl⟩⟩
  · exact ⟨rfl, .inr ⟨by simp [msgType], rfl⟩⟩
  · exact ⟨rfl, .inr ⟨by simp [participant], rfl⟩⟩
  · cases support : creation.typeSupport route.msgType with
    | error => exact ⟨rfl, .inr ⟨by simp, rfl⟩⟩
    | ok =>
        cases created : creation.createService forwarder.services route with
        | error => exact ⟨rfl, .inr ⟨by simp, rfl⟩⟩
        | ok => exact ⟨rfl, .inl ⟨⟨service, msgType, participant, rfl, rfl⟩, rfl⟩⟩

theorem services_le (creation : ServiceCreation) (forwarder : ServiceForwarder) (routes : List ServiceRoute) :
    (routes.foldl (createService creation) forwarder).services.length ≤
      forwarder.services.length + routes.length := by
  induction routes generalizing forwarder with
  | nil => exact Nat.le_refl _
  | cons route routes ih =>
      have later := ih (createService creation forwarder route)
      obtain ⟨_, ⟨_, same⟩ | ⟨_, same⟩⟩ := createService_cases creation forwarder route
      · rw [same, List.length_append, List.length_singleton] at later
        rw [List.foldl_cons, List.length_cons]
        omega
      · rw [same] at later
        exact later.trans (Nat.add_le_add_left (Nat.le_succ _) _)

theorem routesConfigured_kept (creation : ServiceCreation) (forwarder : ServiceForwarder) (routes : List ServiceRoute) :
    (routes.foldl (createService creation) forwarder).routesConfigured = forwarder.routesConfigured := by
  induction routes generalizing forwarder with
  | nil => rfl
  | cons route routes ih => exact (ih _).trans (createService_cases creation forwarder route).1

/-- There is a service for each route exactly when each can be created after those before it. -/
theorem all_created_iff (creation : ServiceCreation) (forwarder : ServiceForwarder) (routes : List ServiceRoute) :
    (routes.foldl (createService creation) forwarder).services.length =
        forwarder.services.length + routes.length ↔
      ∀ before route after, routes = before ++ route :: after →
        Creatable creation (forwarder.services ++ before) route := by
  induction routes generalizing forwarder with
  | nil => simp
  | cons route routes ih =>
      obtain ⟨_, ⟨creatable, same⟩ | ⟨failed, same⟩⟩ := createService_cases creation forwarder route
      · have rest := ih (createService creation forwarder route)
        rw [same, List.length_append, List.length_singleton] at rest
        constructor
        · intro all before next after split
          rw [List.foldl_cons, List.length_cons] at all
          cases before with
          | nil =>
              obtain ⟨rfl, rfl⟩ := List.cons.inj split
              simpa using creatable
          | cons first before =>
              obtain ⟨rfl, rfl⟩ := List.cons.inj split
              simpa using rest.mp (by omega) before next after rfl
        · intro each
          have later := rest.mpr fun before next after split => by
            simpa using each (route :: before) next after (by rw [split, List.cons_append])
          rw [List.foldl_cons, List.length_cons]
          omega
      · have most := services_le creation (createService creation forwarder route) routes
        rw [same] at most
        constructor
        · intro all
          simp only [List.foldl_cons, List.length_cons] at all
          omega
        · intro each
          exact absurd (by simpa using each [] route routes rfl) failed

end Routes

section Requests

variable {Message : Type} {codec : Codec} {conversions : Conversions}

def DiagnosticState.failures (state : DiagnosticState) : Nat :=
  state.requestFailures + state.responseFailures + state.handlerExceptions

/-- A reason is kept exactly when something has failed, and it does not read as none. -/
def DiagnosticState.Reasoned (state : DiagnosticState) : Prop :=
  (state.lastFailureReason = "" ↔ state.failures = 0) ∧ state.lastFailureReason ≠ "none"

namespace DiagnosticState

variable {state : DiagnosticState}

theorem Reasoned.success (reasoned : state.Reasoned) : state.recordSuccess.Reasoned := reasoned

theorem Reasoned.requestFailure {reason : String} (named : reason ≠ "" ∧ reason ≠ "none") :
    (state.recordRequestFailure reason).Reasoned := by
  refine ⟨⟨fun empty => absurd empty named.1, fun none => ?_⟩, named.2⟩
  simp only [failures, recordRequestFailure, recordLastFailure] at none
  omega

theorem Reasoned.responseFailure {reason : String} (named : reason ≠ "" ∧ reason ≠ "none") :
    (state.recordResponseFailure reason).Reasoned := by
  refine ⟨⟨fun empty => absurd empty named.1, fun none => ?_⟩, named.2⟩
  simp only [failures, recordResponseFailure, recordLastFailure] at none
  omega

theorem Reasoned.handlerException : state.recordHandlerException.Reasoned := by
  refine ⟨⟨fun empty => absurd empty (by decide : "handler_exception" ≠ ""), fun none => ?_⟩,
    (by decide : "handler_exception" ≠ "none")⟩
  simp only [failures, recordHandlerException, recordLastFailure] at none
  omega

end DiagnosticState

open DiagnosticState

theorem receiveResponse_reasoned {access : MessageAccess Message} {route : ServiceRoute} {state : DiagnosticState}
    (reasoned : state.Reasoned) (rpcResponse : Option Bytes) (response : Message) :
    (receiveResponse codec conversions access route state rpcResponse response).state.Reasoned := by
  unfold receiveResponse
  split
  · exact Reasoned.requestFailure (by decide)
  · split
    · exact Reasoned.responseFailure (by decide)
    · split_ifs
      · unfold populateResponse
        split
        · exact reasoned
        · exact Reasoned.responseFailure (by decide)
        · exact reasoned.success
      · exact Reasoned.responseFailure (by decide)

theorem forwardRequest_reasoned {livekit : LiveKitMethods} {access : MessageAccess Message} {route : ServiceRoute}
    {state : DiagnosticState} (reasoned : state.Reasoned) (request response : Message) :
    (forwardRequest codec conversions livekit access route request state response).state.Reasoned := by
  unfold forwardRequest
  split
  · exact reasoned
  · simp only
    split
    · exact reasoned
    · exact Reasoned.requestFailure (by decide)
  · split
    · exact reasoned
    · exact Reasoned.requestFailure (by decide)
    · split
      · exact reasoned
      · exact Reasoned.requestFailure (by decide)
      · split
        · exact reasoned
        · exact receiveResponse_reasoned reasoned _ _

theorem handleRequest_reasoned {state : DiagnosticState} (reasoned : state.Reasoned)
    (request : ServiceRequest Message) : (handleRequest codec conversions state request).Reasoned := by
  have handled : (runHandler codec conversions state request).Reasoned := by
    unfold runHandler
    simp only
    split
    · exact forwardRequest_reasoned reasoned _ _
    · exact Reasoned.handlerException
  unfold handleRequest
  cases request.sendOutcome with
  | timeout => exact Reasoned.responseFailure (by decide)
  | sent | failed => exact handled

def timedOut (request : ServiceRequest Message) : Bool := request.sendOutcome = .timeout

variable (codec conversions) in
/-- A request adds one to the counters, and one more if its response times out. -/
theorem handleRequest_adds (state : DiagnosticState) (request : ServiceRequest Message) :
    let handled := handleRequest codec conversions state request
    handled.requestsCounted = state.requestsCounted + 1 + (timedOut request).toNat ∧
      handled.requestsSucceeded ≤ state.requestsSucceeded + 1 := by
  obtain ⟨counter, one⟩ := runHandler_counts codec conversions state request
  have total := one.total
  simp only [DiagnosticState.sum_count] at total
  have succeeded : (runHandler codec conversions state request).requestsSucceeded ≤ state.requestsSucceeded + 1 := by
    by_cases same : counter = .requestsSucceeded
    · subst same
      exact one.1.le
    · exact (one.2 .requestsSucceeded (Ne.symm same)).le.trans (Nat.le_succ _)
  cases outcome : request.sendOutcome with
  | timeout =>
      refine ⟨?_, ?_⟩
      · rw [requestsCounted_of_timeout outcome, timedOut, outcome]
        rfl
      · simp only [handleRequest, outcome]
        exact succeeded
  | sent | failed =>
      simp only [handleRequest, outcome, timedOut]
      exact ⟨total, succeeded⟩

variable (codec conversions) in
theorem handleRequests_add (requests : List (ServiceRequest Message)) :
    let state := handleRequests codec conversions requests
    state.requestsCounted = requests.length + requests.countP timedOut ∧
      state.requestsSucceeded ≤ requests.length ∧ state.Reasoned := by
  induction requests using List.reverseRecOn with
  | nil => exact ⟨rfl, Nat.le_refl _, ⟨fun _ => rfl, fun _ => rfl⟩, (by decide : "" ≠ "none")⟩
  | append_singleton requests request ih =>
      obtain ⟨counted, succeeded, reasoned⟩ := ih
      obtain ⟨more, most⟩ := handleRequest_adds codec conversions
        (handleRequests codec conversions requests) request
      simp only [handleRequests, List.foldl_concat, List.length_append, List.length_singleton, List.countP_append,
        List.countP_singleton] at *
      refine ⟨?_, by omega, handleRequest_reasoned reasoned request⟩
      rw [more, counted]
      cases timedOut request <;> simp <;> omega

/-- Nothing has failed when all requests were counted as successes and no response timed out. -/
theorem failures_eq_zero_iff (requests : List (ServiceRequest Message)) :
    (handleRequests codec conversions requests).failures = 0 ↔
      (handleRequests codec conversions requests).requestsSucceeded = requests.length ∧
        ∀ request ∈ requests, request.sendOutcome ≠ .timeout := by
  obtain ⟨counted, succeeded, _⟩ := handleRequests_add codec conversions requests
  have inTime : requests.countP timedOut = 0 ↔ ∀ request ∈ requests, request.sendOutcome ≠ .timeout := by
    simp [timedOut]
  rw [← inTime]
  simp only [DiagnosticState.requestsCounted, DiagnosticState.failures] at *
  omega

/-- The level of the status after any requests, and the failure that it shows. -/
theorem status_of_requests (creation : ServiceCreation) (routes : List ServiceRoute)
    (requests : List (ServiceRequest Message)) :
    let state := handleRequests codec conversions requests
    let status := populateStatus (construct creation routes) state
    let served := state.requestsSucceeded = requests.length ∧ ∀ request ∈ requests, request.sendOutcome ≠ .timeout
    let created := ∀ before route after, routes = before ++ route :: after → Creatable creation before route
    (status.level = .error ↔ ¬ created) ∧ (status.level = .warn ↔ created ∧ ¬ served) ∧
      (status.level = .ok ↔ created ∧ served) ∧ (("last_failure_reason", "none") ∈ status.values ↔ served) := by
  intro state status served created
  have each : (construct creation routes).services.length = (construct creation routes).routesConfigured ↔
      created := by
    have configured := routesConfigured_kept creation { routesConfigured := routes.length } routes
    have all := all_created_iff creation { routesConfigured := routes.length } routes
    rw [construct, configured]
    simpa using all
  have none : state.failures = 0 ↔ served := failures_eq_zero_iff requests
  obtain ⟨_, _, reasoned⟩ := handleRequests_add codec conversions requests
  have warned : (0 < state.requestFailures ∨ 0 < state.responseFailures ∨ 0 < state.handlerExceptions) ↔
      ¬ served := by
    rw [← none, DiagnosticState.failures]
    omega
  have shown : ("last_failure_reason", "none") ∈ status.values ↔ served := by
    have last : ("last_failure_reason", "none") ∈ status.values ↔ shownFailure state = "none" := by
      simp [status, populateStatus, eq_comm]
    rw [← none, ← reasoned.1, last, shownFailure]
    split_ifs with empty
    · exact iff_of_true rfl empty
    · exact iff_of_false reasoned.2 empty
  refine ⟨?_, ?_, ?_, shown⟩
  all_goals
    simp only [status, populateStatus, level, ne_eq, each, warned]
    split_ifs <;> simp_all

end Requests

end RosPortal.Services
