import RosPortal.Cli.Responses
import RosPortal.Interleaving.Mutex

/-! Concurrent service calls that share one cached client. Each sends its request and waits
for the response under the mutex of the client; responses of calls that have timed out stay
in the reader for the next one. -/

set_option autoImplicit false

namespace RosPortal.Cli.ServiceCall

open JsonText Interleaving

def maxStaleResponseDrains : UInt8 := 25

def serviceCallTimeoutError : Bytes := ascii "Service call timed out."

/-- A response in the reader, with the sequence number in its header. -/
structure Response (Content : Type) where
  sequenceNumber : Int
  content : Content
deriving DecidableEq, Repr

/-- A response taken by the call of a request, and whether it was discarded. -/
structure Take (Content : Type) where
  request : Int
  response : Response Content
  discarded : Bool
deriving DecidableEq, Repr

/-- The client, its reader and the clock, in nanoseconds. The numbers given to requests, the
responses that servers have sent and those that were taken are recorded; only the network reads
the second, so that what it delivers has been sent. -/
structure Shared (Content : Type) where
  locked : Bool := false
  queue : List (Response Content) := []
  now : Nat := 0
  assigned : List Int := []
  sent : List (Response Content) := []
  takes : List (Take Content) := []
deriving DecidableEq, Repr

/-- A request that has been sent. -/
structure Pending where
  sequenceNumber : Int
  deadline : Nat
deriving DecidableEq, Repr

/-- Where a call is. Of a call inside `takeResponse`, and of one that came back from it, the
responses it has discarded there are recorded. The network is a thread of its own. -/
inductive Control (Content : Type) where
  | network
  | called (options : ServiceCallOptions)
  | waiting (options : ServiceCallOptions)
  | sending (options : ServiceCallOptions)
  | polling (request : Pending)
  | taking (request : Pending) (attemptCount : UInt8) (drained : List (Response Content))
  | sleeping (request : Pending) (drained : List (Response Content))
  | leaving (request : Option Int) (result : Except Bytes CliResponse)
  | returned (request : Option Int) (result : Except Bytes CliResponse)
deriving Repr

/-- What a call meets before it takes the mutex. -/
structure Preparation where
  resolvedService : Except Bytes Bytes
  client : Except Bytes Unit
  requestMessage : Except Bytes Unit

/-- What a thread meets. The network may send a response, hold back, reorder, repeat or lose
those that were sent, and let time pass. -/
inductive Choice (Content : Type) where
  | deliver (response : Response Content)
  | rearrange (queue : List (Response Content))
  | tick (period : Nat)
  | prepare (preparation : Preparation)
  | lock
  | send (sequenceNumber : Except Bytes Int)
  | checkDeadline
  | take
  | takeThrows (what : Bytes)
  | wake
  | unlock

def prepare (options : ServiceCallOptions) (preparation : Preparation) : Option CliResponse :=
  match preparation.resolvedService with
  | .error what => some (failure what)
  | .ok _ =>
      if options.msgType = [] then some (failure (ascii "msg_type must be non-empty"))
      else
        match preparation.client with
        | .error what => some (failure (ascii "failed to create service client: " ++ what))
        | .ok _ =>
            match preparation.requestMessage with
            | .error what => some (failure (ascii "failed to build service request: " ++ what))
            | .ok _ => none

section Client

variable {Content : Type} [DecidableEq Content] (msgType : Bytes)
  (toYaml : Bytes → Content → Except Bytes (Option Bytes))

def convertResponse (content : Content) : CliResponse :=
  match toYaml (msgType ++ ascii "_Response") content with
  | .ok (some output) => ⟨true, [], output⟩
  | .ok none =>
      failure (ascii "failed to convert service response: unknown message type '" ++ msgType ++
        ascii "_Response'")
  | .error what => failure (ascii "failed to convert service response: " ++ what)

def timeout (options : ServiceCallOptions) : Nat :=
  1000000000 * (effectiveTimeout options.timeoutSec).toNat

/-- One round of the loop of `takeResponse`. -/
def takeResponse (shared : Shared Content) (request : Pending) (attemptCount : UInt8)
    (drained : List (Response Content)) : Shared Content × Control Content :=
  match shared.queue with
  | [] => (shared, .sleeping request drained)
  | response :: queue =>
      let discarded := response.sequenceNumber ≠ request.sequenceNumber
      let taken := { shared with
        queue, takes := ⟨request.sequenceNumber, response, discarded⟩ :: shared.takes }
      if discarded then
        if attemptCount + 1 < maxStaleResponseDrains then
          (taken, .taking request (attemptCount + 1) (response :: drained))
        else (taken, .sleeping request (response :: drained))
      else (taken, .leaving (some request.sequenceNumber)
        (.ok (convertResponse msgType toYaml response.content)))

def advance (shared : Shared Content) : Control Content → Choice Content →
    Option (Shared Content × Control Content)
  | .network, .deliver response =>
      some ({ shared with queue := shared.queue ++ [response], sent := response :: shared.sent },
        .network)
  | .network, .rearrange queue =>
      if ∀ response ∈ queue, response ∈ shared.sent then some ({ shared with queue }, .network)
      else none
  | .network, .tick period => some ({ shared with now := shared.now + period }, .network)
  | .called options, .prepare preparation =>
      match prepare options preparation with
      | some response => some (shared, .returned none (.ok response))
      | none => some (shared, .waiting options)
  | .waiting options, .lock =>
      if shared.locked then none else some ({ shared with locked := true }, .sending options)
  | .sending _, .send (.error message) =>
      some (shared,
        .leaving none (.ok (failure (ascii "failed to send service request: " ++ message))))
  -- a client gives every request a number of its own
  | .sending options, .send (.ok sequenceNumber) =>
      if sequenceNumber ∈ shared.assigned then none
      else some ({ shared with assigned := sequenceNumber :: shared.assigned },
        .polling ⟨sequenceNumber, shared.now + timeout options⟩)
  | .polling request, .checkDeadline =>
      if shared.now < request.deadline then some (shared, .taking request 0 [])
      else some (shared,
        .leaving (some request.sequenceNumber) (.ok (failure serviceCallTimeoutError)))
  | .taking request attemptCount drained, .take =>
      some (takeResponse msgType toYaml shared request attemptCount drained)
  | .taking request _ _, .takeThrows what =>
      some (shared, .leaving (some request.sequenceNumber) (.error what))
  | .sleeping request _, .wake => some (shared, .polling request)
  | .leaving request result, .unlock =>
      some ({ shared with locked := false }, .returned request result)
  | _, _ => none

def program : Program (Shared Content) (Control Content) (Choice Content) := ⟨advance msgType toYaml⟩

def initial (calls : List ServiceCallOptions) : Pool (Shared Content) (Control Content) :=
  ⟨{}, .network :: calls.map .called⟩

end Client

namespace Control

variable {Content : Type}

def inside : Control Content → Bool
  | sending _ | polling _ | taking _ _ _ | sleeping _ _ | leaving _ _ => true
  | network | called _ | waiting _ | returned _ _ => false

/-- The number of the request that the call waits to be answered. -/
def pending? : Control Content → Option Int
  | polling request | taking request _ _ | sleeping request _ => some request.sequenceNumber
  | network | called _ | waiting _ | sending _ | leaving _ _ | returned _ _ => none

/-- The number of the request that the call has sent. -/
def request? : Control Content → Option Int
  | polling request | taking request _ _ | sleeping request _ => some request.sequenceNumber
  | leaving request _ | returned request _ => request
  | network | called _ | waiting _ | sending _ => none

/-- What the call ends with, also while it still has the mutex. -/
def result? : Control Content → Option (Except Bytes CliResponse)
  | leaving _ result | returned _ result => some result
  | _ => none

end Control

end RosPortal.Cli.ServiceCall
