import RosPortal.Interleaving.Machine

/-! The configured video sources: construction starts a capture session for each, diagnostics
poll the sessions, and destruction stops and unpublishes those that were kept. -/

set_option autoImplicit false

namespace RosPortal.Video.SourceManager

open Interleaving

structure VideoSourceConfig where
  trackName : String
  sourceType : String
deriving DecidableEq, Repr

inductive VideoSourceStateKind where
  | starting
  | running
  | stopped
  | endOfStream
  | error
deriving DecidableEq, Repr

structure VideoSourceState where
  trackName : String
  sourceType : String
  kind : VideoSourceStateKind := .starting
  framesCaptured : Nat := 0
  error : String := ""
deriving DecidableEq, Repr

inductive VideoSourceExit where
  | stopped
  | endOfStream
deriving DecidableEq, Repr

structure VideoSourceResult where
  error : Option String
  framesCaptured : Nat
  exit : VideoSourceExit
deriving DecidableEq, Repr

/-- What is thrown: a `std::exception` with its text, or anything else. -/
inductive Thrown where
  | standard (what : String)
  | unknown
deriving DecidableEq, Repr

def Thrown.textOr (unknownText : String) : Thrown → String
  | .standard what => what
  | .unknown => unknownText

/-- The functions of a session that are set. -/
structure SessionFunctions where
  start : Bool
  stop : Bool
  pollResult : Bool
  unpublish : Bool
deriving DecidableEq, Repr

def SessionFunctions.complete (session : SessionFunctions) : Bool :=
  session.start && session.stop && session.pollResult && session.unpublish

inductive Creation where
  | threw (thrown : Thrown)
  | failed (error : String)
  | absent
  | returned (session : SessionFunctions)
deriving DecidableEq, Repr

/-- What construction meets at one source; the last two are met only if `start` throws. -/
structure Startup where
  creation : Creation
  start : Option Thrown
  stop : Option Thrown
  unpublish : Option Thrown
deriving DecidableEq, Repr

/-- What destruction meets at one session: the text of the exception that a call throws. -/
structure Shutdown where
  stop : Option String
  unpublish : Option String
deriving DecidableEq, Repr

inductive Poll where
  | threw (thrown : Thrown)
  | running
  | finished (result : VideoSourceResult)
deriving DecidableEq, Repr

/-- A call that the manager makes, for the source at an index or under the name of a task. -/
inductive Call where
  | createAndPublish (index : Nat)
  | start (index : Nat)
  | pollResult (index : Nat)
  | stop (index : Nat)
  | unpublish (index : Nat)
  | addTask (name : String)
  | removeTask (name : String)
deriving DecidableEq, Repr

structure Runtime where
  diagnosticName : String
  state : VideoSourceState
  session : Bool
deriving DecidableEq, Repr

namespace VideoSourceState

def markError (state : VideoSourceState) (error : String) : VideoSourceState :=
  { state with kind := .error, error }

def recordFinished (state : VideoSourceState) (finished : VideoSourceResult) : VideoSourceState :=
  match finished.error with
  | some error => { state with framesCaptured := finished.framesCaptured, kind := .error, error }
  | none =>
      { state with
        framesCaptured := finished.framesCaptured
        kind := if finished.exit = .endOfStream then .endOfStream else .stopped
        error := "" }

def poll (state : VideoSourceState) : Poll → VideoSourceState
  | .threw thrown => state.markError (thrown.textOr "unknown capture join error")
  | .running => state
  | .finished result => state.recordFinished result

end VideoSourceState

def taskName (config : VideoSourceConfig) (index : Nat) : String :=
  "video_source/" ++ config.trackName ++ "/" ++ toString index

/-- A call in a `try` block of its own is made, and what it throws is logged. -/
def guarded {Exception : Type} (call : Call) (_ : Option Exception) : List Call := [call]

/-- One round of the loop of the constructor, up to the diagnostic task. -/
def startSource (config : VideoSourceConfig) (index : Nat) (startup : Startup) : Runtime × List Call :=
  let state : VideoSourceState := { trackName := config.trackName, sourceType := config.sourceType }
  let runtime (state : VideoSourceState) (session : Bool) : Runtime :=
    { diagnosticName := taskName config index, state, session }
  match startup.creation with
  | .threw thrown =>
      (runtime (state.markError (thrown.textOr "unknown error")) false, [.createAndPublish index])
  | .failed error => (runtime (state.markError error) false, [.createAndPublish index])
  | .absent =>
      (runtime (state.markError "create_and_publish returned an invalid capture session") false,
        [.createAndPublish index])
  | .returned session =>
      if session.complete = false then
        (runtime (state.markError "create_and_publish returned an invalid capture session") false,
          [.createAndPublish index])
      else
        let running := { state with kind := .running, error := "" }
        match startup.start with
        | none => (runtime running true, [.createAndPublish index, .start index])
        -- the session is cleaned up here and not kept for the destructor
        | some thrown =>
            (runtime (running.markError (thrown.textOr "unknown error")) false,
              [.createAndPublish index, .start index] ++ guarded (.stop index) startup.stop ++
                guarded (.unpublish index) startup.unpublish)

/-- The diagnostic task of a source. -/
def Runtime.update (runtime : Runtime) (poll : Poll) : Runtime :=
  if runtime.session then { runtime with state := runtime.state.poll poll } else runtime

def Runtime.pollCalls (runtime : Runtime) (index : Nat) : List Call :=
  if runtime.session then [.pollResult index] else []

/-- One round of the second loop of the destructor. -/
def Runtime.close (runtime : Runtime) (index : Nat) (shutdown : Shutdown) : List Call :=
  if runtime.session then
    guarded (.stop index) shutdown.stop ++ guarded (.unpublish index) shutdown.unpublish
  else []

/-- The destructor removes the tasks in order, and then goes through the sources from the last
to the first; `closing left` has `left` of them before it. -/
inductive Phase where
  | constructing
  | removing (removed : Nat)
  | closing (left : Nat)
deriving DecidableEq, Repr

structure Manager where
  runtimes : List Runtime := []
  phase : Phase := .constructing
  calls : List Call := []
deriving DecidableEq, Repr

inductive Label where
  | startSource (startup : Startup)
  | update (index : Nat) (poll : Poll)
  | destroy
  | removeTask
  | close (shutdown : Shutdown)
deriving DecidableEq, Repr

/-- The task of the source is there and not removed yet. -/
def Phase.serves (index : Nat) : Phase → Bool
  | .constructing => true
  | .removing removed => removed ≤ index
  | .closing _ => false

section Lifetime

variable (configs : List VideoSourceConfig)

def step? (manager : Manager) : Label → Option Manager
  | .startSource startup =>
      match manager.phase, configs[manager.runtimes.length]? with
      | .constructing, some config =>
          let started := startSource config manager.runtimes.length startup
          some { manager with
            runtimes := manager.runtimes ++ [started.1]
            calls := manager.calls ++ started.2 ++ [.addTask started.1.diagnosticName] }
      | _, _ => none
  | .update index poll =>
      match manager.runtimes[index]? with
      | some runtime =>
          if manager.phase.serves index then
            some { manager with
              runtimes := manager.runtimes.set index (runtime.update poll)
              calls := manager.calls ++ runtime.pollCalls index }
          else none
      | none => none
  | .destroy =>
      if manager.phase = .constructing ∧ manager.runtimes.length = configs.length then
        some { manager with phase := .removing 0 }
      else none
  | .removeTask =>
      match manager.phase with
      | .removing removed =>
          match manager.runtimes[removed]? with
          | some runtime =>
              some { manager with
                phase := .removing (removed + 1)
                calls := manager.calls ++ [.removeTask runtime.diagnosticName] }
          | none => some { manager with phase := .closing manager.runtimes.length }
      | _ => none
  | .close shutdown =>
      match manager.phase with
      | .closing (left + 1) =>
          match manager.runtimes[left]? with
          | some runtime =>
              some { manager with
                phase := .closing left
                calls := manager.calls ++ runtime.close left shutdown }
          | none => none
      | _ => none

def lifetime : Machine Manager Label := ⟨step? configs⟩

end Lifetime

def Manager.gone (manager : Manager) : Bool := manager.phase = .closing 0

end RosPortal.Video.SourceManager
