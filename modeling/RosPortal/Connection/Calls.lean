import RosPortal.Connection.Transition

/-! The entry points of the manager as single updates: what a call does when no
other thread runs until it returns. Each is proved to be a run of the program. -/

set_option autoImplicit false

namespace RosPortal.Connection

open Interleaving

namespace Manager

def isConnected (manager : Manager) : Bool := manager.state = .connected

/-- `poll` with the value of `now()` and the outcome of `try_connect`. -/
def poll (manager : Manager) (now : Int) (connected : Bool) : Manager :=
  if manager.state ≠ .disconnected then manager
  else if now < manager.nextAttemptAt then manager
  else
    let attempt := ({ manager with
      state := .connecting, nextAttemptAt := now + kRetryInterval } : Manager).beginSessionAttempt
    if connected then
      ({ attempt with state := .connected } : Manager).markConnectionGained.enableOperations.notifyAll
    else { attempt.closeSession.notifyAll with state := .disconnected }

def transitionToReconnecting (manager : Manager) : Manager :=
  match manager.compareExchange .connected .reconnecting with
  | some exchanged => exchanged.disableOperations
  | none => manager

def transitionToReconnected (manager : Manager) : Manager :=
  match manager.compareExchange .reconnecting .connected with
  | some exchanged => exchanged.markConnectionGained.enableOperations.notifyAll
  | none => manager

def transitionToDisconnected (manager : Manager) : Manager :=
  if manager.state.ended then manager
  else ({ manager with state := .waitingForRoomEos } : Manager).closeSession.notifyAll

def onRoomEos (manager : Manager) : Manager :=
  if manager.state = .stopped ∨ manager.state = .disconnected then manager
  else if manager.state = .waitingForRoomEos then { manager with state := .disconnected }
  else ({ manager with state := .disconnected } : Manager).closeSession.notifyAll

def stop (manager : Manager) : Manager :=
  ({ manager with state := .stopped } : Manager).closeSession.notifyAll

/-- The update of an entry point that takes no input from the environment. -/
def handle (manager : Manager) : Entry → Manager
  | .onConnectionStateChanged .connected | .onReconnected => manager.transitionToReconnected
  | .onConnectionStateChanged .reconnecting | .onReconnecting => manager.transitionToReconnecting
  | .onConnectionStateChanged .disconnected | .onDisconnected => manager.transitionToDisconnected
  | .onRoomEos => manager.onRoomEos
  | .stop => manager.stop
  | .poll | .waitForOperations => manager

end Manager

/-- The call, run without interference, updates the manager to the given one. -/
def Calls (shared : Shared) (entry : Entry) (manager : Manager) : Prop :=
  ∃ choices, (program.solo? shared .idle (.call entry :: choices)).map
    (fun result => (result.1.manager, result.2)) = some (manager, .idle)

-- a call is run by evaluation
attribute [local simp] Program.solo? program advance

theorem poll_claims {shared : Shared} {now : Int} (free : shared.manager.state = .disconnected)
    (due : ¬ now < shared.manager.nextAttemptAt) (later : shared.history.clock ≤ now) :
    program.solo? shared .idle [.call .poll, .proceed, .time now, .proceed] =
      some ({ shared with history := { shared.history with clock := now } }, .pollClaim now) := by
  simp [Entry.first, free, due, later]

/-- From its claim on, a poll that no other thread interferes with runs to its end. -/
theorem poll_finishes (shared : Shared) (now : Int) (connected : Bool)
    (free : shared.manager.state = .disconnected) (due : ¬ now < shared.manager.nextAttemptAt) :
    ∃ choices, (program.solo? shared (.pollClaim now) choices).map
      (fun result => (result.1.manager, result.2)) = some (shared.manager.poll now connected, .idle) := by
  rw [Manager.poll, if_neg (not_not_intro free), if_neg due]
  obtain ⟨manager, history⟩ := shared
  cases manager
  cases free
  cases connected with
  | false =>
      exact ⟨[.proceed, .proceed, .proceed, .proceed, .connected false, .proceed, .proceed, .proceed], rfl⟩
  | true =>
      exact ⟨[.proceed, .proceed, .proceed, .proceed, .connected true, .proceed, .proceed, .proceed], rfl⟩

theorem calls_poll (shared : Shared) (now : Int) (connected : Bool)
    (later : shared.history.clock ≤ now) :
    Calls shared .poll (shared.manager.poll now connected) := by
  by_cases free : shared.manager.state = .disconnected
  · by_cases early : now < shared.manager.nextAttemptAt
    · refine ⟨[.proceed, .time now, .proceed], ?_⟩
      simp [Entry.first, Manager.poll, free, later, early]
    · let started : Shared := { shared with history := { shared.history with clock := now } }
      obtain ⟨choices, finished⟩ := poll_finishes started now connected free early
      refine ⟨[.proceed, .time now, .proceed] ++ choices, ?_⟩
      rw [← List.cons_append, Program.solo?_append, poll_claims free early later]
      exact finished
  · refine ⟨[.proceed], ?_⟩
    simp [Entry.first, Manager.poll, free]

theorem calls_reconnecting (shared : Shared) {entry : Entry}
    (enters : entry.first shared.history.sessions = .reconnectingExchange) :
    Calls shared entry shared.manager.transitionToReconnecting := by
  cases exchange : shared.manager.compareExchange .connected .reconnecting with
  | some exchanged =>
      refine ⟨[.proceed, .proceed], ?_⟩
      simp [enters, exchange, update, Manager.transitionToReconnecting]
  | none =>
      refine ⟨[.proceed], ?_⟩
      simp [enters, exchange, Manager.transitionToReconnecting]

theorem calls_reconnected (shared : Shared) {entry : Entry}
    (enters : entry.first shared.history.sessions = .reconnectedExchange) :
    Calls shared entry shared.manager.transitionToReconnected := by
  cases exchange : shared.manager.compareExchange .reconnecting .connected with
  | some exchanged =>
      refine ⟨[.proceed, .proceed, .proceed], ?_⟩
      simp [enters, exchange, update, Manager.transitionToReconnected]
  | none =>
      refine ⟨[.proceed], ?_⟩
      simp [enters, exchange, Manager.transitionToReconnected]

theorem calls_disconnected (shared : Shared) {entry : Entry}
    (enters : entry.first shared.history.sessions = .disconnectedLoad) :
    Calls shared entry shared.manager.transitionToDisconnected := by
  cases ended : shared.manager.state.ended with
  | true =>
      have left : disconnectedLoop shared.manager.state = .idle := by
        cases state : shared.manager.state <;> simp_all [disconnectedLoop, State.ended]
      refine ⟨[.proceed], ?_⟩
      simp [enters, left, Manager.transitionToDisconnected, ended]
  | false =>
      have tried : disconnectedLoop shared.manager.state =
          .disconnectedExchange shared.manager.state := by
        cases state : shared.manager.state <;> simp_all [disconnectedLoop, State.ended]
      refine ⟨[.proceed, .proceed, .proceed, .proceed], ?_⟩
      simp [enters, tried, Manager.transitionToDisconnected, ended,
        Manager.compareExchange, update, close]

theorem calls_eos (shared : Shared) : Calls shared .onRoomEos shared.manager.onRoomEos := by
  by_cases left : shared.manager.state = .stopped ∨ shared.manager.state = .disconnected
  · refine ⟨[.proceed], ?_⟩
    simp [Entry.first, eosLoop, Manager.onRoomEos, left]
  · by_cases waiting : shared.manager.state = .waitingForRoomEos
    · refine ⟨[.proceed, .proceed], ?_⟩
      simp [Entry.first, eosLoop, Manager.onRoomEos, waiting,
        Manager.compareExchange, update]
    · refine ⟨[.proceed, .proceed, .proceed, .proceed], ?_⟩
      simp [Entry.first, eosLoop, Manager.onRoomEos, left, waiting,
        Manager.compareExchange, update, close]

theorem calls_stop (shared : Shared) : Calls shared .stop shared.manager.stop :=
  ⟨[.proceed, .proceed, .proceed], rfl⟩

/-- Every entry point that changes the manager without input is `handle` of it. -/
theorem calls_handle (shared : Shared) (entry : Entry) (notPoll : entry ≠ .poll)
    (notWait : entry ≠ .waitForOperations) : Calls shared entry (shared.manager.handle entry) := by
  cases entry with
  | poll => exact absurd rfl notPoll
  | waitForOperations => exact absurd rfl notWait
  | onConnectionStateChanged state =>
      cases state with
      | connected => exact calls_reconnected shared rfl
      | reconnecting => exact calls_reconnecting shared rfl
      | disconnected => exact calls_disconnected shared rfl
  | onReconnecting => exact calls_reconnecting shared rfl
  | onReconnected => exact calls_reconnected shared rfl
  | onDisconnected => exact calls_disconnected shared rfl
  | onRoomEos => exact calls_eos shared
  | stop => exact calls_stop shared

end RosPortal.Connection
