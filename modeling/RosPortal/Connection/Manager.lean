import RosPortal.Interleaving.ThreadPool

/-! The room connection manager. Each atomic operation on `state_`, each read or
write of `next_attempt_at_`, each critical section of `session_mutex_` and each
`notify_all` is one step of a thread. The history records what the properties
speak about and is never read by a step. -/

set_option autoImplicit false

namespace RosPortal.Connection

open Interleaving

inductive State where
  | disconnected
  | connecting
  | connected
  | reconnecting
  | waitingForRoomEos
  | stopped
deriving DecidableEq, Repr

/-- `kRetryInterval`, in nanoseconds of the steady clock. -/
def kRetryInterval : Int := 1000000000

/-- `Clock::time_point::min()`. -/
def timePointMin : Int := -9223372036854775808

/-- The members of `ConnectionManager`. `notifications` counts the calls of
`session_cv_.notify_all()`, so a blocked waiter can tell whether it was notified. -/
structure Manager where
  state : State := .disconnected
  hasConnected : Bool := false
  nextAttemptAt : Int := timePointMin
  operationsEnabled : Bool := false
  sessionClosed : Bool := true
  notifications : Nat := 0
deriving DecidableEq, Repr

namespace Manager

/-- `state_.compare_exchange_strong(expected, desired)`, failing with `none`. -/
def compareExchange (manager : Manager) (expected desired : State) : Option Manager :=
  if manager.state = expected then some { manager with state := desired } else none

def beginSessionAttempt (manager : Manager) : Manager :=
  { manager with operationsEnabled := false, sessionClosed := false }

def enableOperations (manager : Manager) : Manager :=
  { manager with sessionClosed := false, operationsEnabled := true }

def disableOperations (manager : Manager) : Manager :=
  { manager with operationsEnabled := false, sessionClosed := false }

def closeSession (manager : Manager) : Manager :=
  { manager with operationsEnabled := false, sessionClosed := true }

def notifyAll (manager : Manager) : Manager :=
  { manager with notifications := manager.notifications + 1 }

def markConnectionGained (manager : Manager) : Manager :=
  { manager with hasConnected := true }

/-- The predicate of `session_cv_.wait`. -/
def released (manager : Manager) : Bool :=
  manager.operationsEnabled || manager.sessionClosed

end Manager

/-- One start of `try_connect`, with what the properties of attempts ask about it. -/
structure AttemptStart where
  now : Int
  state : State
  afterStop : Bool
deriving DecidableEq, Repr

/-- One return of `waitForOperations`: the session attempt the call began in, the
one it returned in, whether a close ran while it was blocked, and its result. -/
structure WaitReturn where
  began : Nat
  returnedIn : Nat
  closedWhileBlocked : Bool
  result : Bool
deriving DecidableEq, Repr

/-- `sessions` counts the runs of `beginSessionAttempt`, `closes` those of `closeSession`. -/
structure History where
  clock : Int := timePointMin
  sessions : Nat := 0
  closes : Nat := 0
  starts : List AttemptStart := []
  stopReturned : Bool := false
  returns : List WaitReturn := []
deriving DecidableEq, Repr

structure Shared where
  manager : Manager := {}
  history : History := {}
deriving DecidableEq, Repr

/-- `livekit::ConnectionState`. -/
inductive SdkConnectionState where
  | connected
  | reconnecting
  | disconnected
deriving DecidableEq, Repr

/-- The entry points of the manager that touch the connection state or the barrier. -/
inductive Entry where
  | poll
  | onConnectionStateChanged (state : SdkConnectionState)
  | onReconnecting
  | onReconnected
  | onDisconnected
  | onRoomEos
  | stop
  | waitForOperations
deriving DecidableEq, Repr

inductive Control where
  | idle
  | pollLoad
  | pollNow
  | pollDeadline (now : Int)
  | pollClaim (now : Int)
  | pollSchedule (now : Int)
  | pollBeginSession (now : Int)
  | pollTryConnect (now : Int)
  | pollConnecting
  | pollCloseFailed
  | pollNotifyFailed
  | pollReleaseFailed
  | pollAdopt
  | reconnectingExchange
  | reconnectedExchange
  | disconnectedLoad
  | disconnectedExchange (previous : State)
  | eosLoad
  | eosExchange (previous : State)
  | stopStore
  | stopClose
  | stopNotify
  | enable
  | disable
  | close
  | notify
  | waitEnter (began : Nat)
  | waitBlocked (began ticket closesSeen : Nat)
deriving DecidableEq, Repr

/-- What the environment decides in a step: the call a thread makes, the value of
`now()`, the outcome of `try_connect` (a throw counts as false), and whether a
weak exchange or a wait ends spuriously. -/
inductive Choice where
  | call (entry : Entry)
  | proceed
  | time (now : Int)
  | connected (success : Bool)
  | spurious
deriving DecidableEq, Repr

def Entry.first (entry : Entry) (sessions : Nat) : Control :=
  match entry with
  | .poll => .pollLoad
  | .onConnectionStateChanged .connected => .reconnectedExchange
  | .onConnectionStateChanged .reconnecting => .reconnectingExchange
  | .onConnectionStateChanged .disconnected => .disconnectedLoad
  | .onReconnecting => .reconnectingExchange
  | .onReconnected => .reconnectedExchange
  | .onDisconnected => .disconnectedLoad
  | .onRoomEos => .eosLoad
  | .stop => .stopStore
  | .waitForOperations => .waitEnter sessions

/-- The loop head of `transitionToDisconnected` with the value last seen in `state_`. -/
def disconnectedLoop (previous : State) : Control :=
  if previous = .stopped ∨ previous = .disconnected ∨ previous = .waitingForRoomEos then .idle
  else .disconnectedExchange previous

/-- The loop head of `onRoomEos` with the value last seen in `state_`. -/
def eosLoop (previous : State) : Control :=
  if previous = .stopped ∨ previous = .disconnected then .idle else .eosExchange previous

def returnFromWait (shared : Shared) (began : Nat) (closedWhileBlocked : Bool) : Shared × Control :=
  ({ shared with history := { shared.history with
      returns := ⟨began, shared.history.sessions, closedWhileBlocked,
        shared.manager.operationsEnabled⟩ :: shared.history.returns } }, .idle)

def update (shared : Shared) (manager : Manager) : Shared := { shared with manager := manager }

/-- `closeSession`'s critical section, counted in the history. -/
def close (shared : Shared) : Shared :=
  { shared with
    manager := shared.manager.closeSession
    history := { shared.history with closes := shared.history.closes + 1 } }

def advance (shared : Shared) : Control → Choice → Option (Shared × Control)
  | .idle, .call entry => some (shared, entry.first shared.history.sessions)
  -- poll
  | .pollLoad, .proceed =>
      some (shared, if shared.manager.state = .disconnected then .pollNow else .idle)
  | .pollNow, .time now =>
      if shared.history.clock ≤ now then
        some ({ shared with history := { shared.history with clock := now } }, .pollDeadline now)
      else none
  | .pollDeadline now, .proceed =>
      some (shared, if now < shared.manager.nextAttemptAt then .idle else .pollClaim now)
  | .pollClaim now, .proceed =>
      match shared.manager.compareExchange .disconnected .connecting with
      | some manager => some (update shared manager, .pollSchedule now)
      | none => some (shared, .idle)
  | .pollSchedule now, .proceed =>
      some (update shared { shared.manager with nextAttemptAt := now + kRetryInterval },
        .pollBeginSession now)
  | .pollBeginSession now, .proceed =>
      some ({ shared with
        manager := shared.manager.beginSessionAttempt
        history := { shared.history with sessions := shared.history.sessions + 1 } },
        .pollTryConnect now)
  | .pollTryConnect now, .proceed =>
      some ({ shared with history := { shared.history with
        starts := ⟨now, shared.manager.state, shared.history.stopReturned⟩ :: shared.history.starts } },
        .pollConnecting)
  | .pollConnecting, .connected success =>
      some (shared, if success then .pollAdopt else .pollCloseFailed)
  | .pollCloseFailed, .proceed => some (close shared, .pollNotifyFailed)
  | .pollNotifyFailed, .proceed => some (update shared shared.manager.notifyAll, .pollReleaseFailed)
  | .pollReleaseFailed, .proceed =>
      match shared.manager.compareExchange .connecting .disconnected with
      | some manager => some (update shared manager, .idle)
      | none => some (shared, .idle)
  | .pollAdopt, .proceed =>
      match shared.manager.compareExchange .connecting .connected with
      | some manager => some (update shared manager.markConnectionGained, .enable)
      | none => some (shared, .close)
  -- transitionToReconnecting
  | .reconnectingExchange, .proceed =>
      match shared.manager.compareExchange .connected .reconnecting with
      | some manager => some (update shared manager, .disable)
      | none => some (shared, .idle)
  -- transitionToReconnected
  | .reconnectedExchange, .proceed =>
      match shared.manager.compareExchange .reconnecting .connected with
      | some manager => some (update shared manager.markConnectionGained, .enable)
      | none => some (shared, .idle)
  -- transitionToDisconnected; a failed weak exchange reloads `previous`
  | .disconnectedLoad, .proceed => some (shared, disconnectedLoop shared.manager.state)
  | .disconnectedExchange previous, .proceed =>
      match shared.manager.compareExchange previous .waitingForRoomEos with
      | some manager => some (update shared manager, .close)
      | none => some (shared, disconnectedLoop shared.manager.state)
  | .disconnectedExchange _, .spurious => some (shared, disconnectedLoop shared.manager.state)
  -- onRoomEos; a session that already waits for it has been closed before
  | .eosLoad, .proceed => some (shared, eosLoop shared.manager.state)
  | .eosExchange previous, .proceed =>
      match shared.manager.compareExchange previous .disconnected with
      | some manager =>
          some (update shared manager, if previous = .waitingForRoomEos then .idle else .close)
      | none => some (shared, eosLoop shared.manager.state)
  | .eosExchange _, .spurious => some (shared, eosLoop shared.manager.state)
  -- stop
  | .stopStore, .proceed => some (update shared { shared.manager with state := .stopped }, .stopClose)
  | .stopClose, .proceed => some (close shared, .stopNotify)
  | .stopNotify, .proceed =>
      some ({ shared with
        manager := shared.manager.notifyAll
        history := { shared.history with stopReturned := true } }, .idle)
  -- the barrier updates shared by the transitions
  | .enable, .proceed => some (update shared shared.manager.enableOperations, .notify)
  | .disable, .proceed => some (update shared shared.manager.disableOperations, .idle)
  | .close, .proceed => some (close shared, .notify)
  | .notify, .proceed => some (update shared shared.manager.notifyAll, .idle)
  -- waitForOperations; a blocked waiter re-checks once notified, or spuriously
  | .waitEnter began, .proceed =>
      if shared.manager.released then some (returnFromWait shared began false)
      else some (shared, .waitBlocked began shared.manager.notifications shared.history.closes)
  | .waitBlocked began ticket closesSeen, choice =>
      if (choice = .proceed ∧ ticket < shared.manager.notifications) ∨ choice = .spurious then
        if shared.manager.released then
          some (returnFromWait shared began (closesSeen < shared.history.closes))
        else some (shared, .waitBlocked began shared.manager.notifications closesSeen)
      else none
  | _, _ => none

def program : Program Shared Control Choice where
  advance := advance

abbrev Config : Type := Pool Shared Control

def initial (threads : Nat) : Config where
  shared := {}
  threads := List.replicate threads .idle

/-- A call of `poll`, `stop` or a room callback is in progress; waiting is not such a call. -/
def Control.transitioning : Control → Bool
  | .idle | .waitEnter _ | .waitBlocked _ _ _ => false
  | _ => true

/-- No call that can change the connection state or the barrier is in progress. -/
def Quiescent (config : Config) : Prop := config.Nowhere Control.transitioning

instance (config : Config) : Decidable (Quiescent config) :=
  inferInstanceAs (Decidable (config.Nowhere _))

theorem initial_thread {threads thread : Nat} {control : Control}
    (found : (initial threads).threads[thread]? = some control) : control = .idle :=
  List.eq_of_mem_replicate (List.mem_of_getElem? found)

end RosPortal.Connection
