import RosPortal.Connection.Invariants

/-! `connection_health` beside the connection manager. A callback, and a `poll` that
connects, updates the diagnostics in a step of its own, after the manager has gone
through its own steps for the event, and whether or not the manager took part in it. -/

set_option autoImplicit false

namespace RosPortal.Connection

open Interleaving

/-- `ConnectionHealthStateKind`. -/
inductive HealthKind where
  | disconnected
  | reconnecting
  | connected
deriving DecidableEq, Repr

/-- What `ConnectionHealthDiagnostics` keeps of the connection. -/
structure Health where
  kind : HealthKind := .disconnected
  connectionLossCount : Nat := 0
  reconnectCount : Nat := 0
deriving DecidableEq, Repr

namespace Health

def markConnected (health : Health) : Health := { health with kind := .connected }

def markDisconnected (health : Health) : Health :=
  { health with
    connectionLossCount :=
      if health.kind = .connected then health.connectionLossCount + 1 else health.connectionLossCount
    kind := .disconnected }

def markReconnecting (health : Health) : Health :=
  { health with
    connectionLossCount :=
      if health.kind = .connected then health.connectionLossCount + 1 else health.connectionLossCount
    reconnectCount :=
      if health.kind = .connected then health.reconnectCount + 1 else health.reconnectCount
    kind := .reconnecting }

end Health

inductive Mark where
  | connected
  | reconnecting
  | disconnected
deriving DecidableEq, Repr

def Health.mark (health : Health) : Mark → Health
  | .connected => health.markConnected
  | .reconnecting => health.markReconnecting
  | .disconnected => health.markDisconnected

/-- `losses` counts how often the manager's state has left `Connected`. -/
structure Reported where
  shared : Shared := {}
  health : Health := {}
  losses : Nat := 0
deriving DecidableEq, Repr

/-- A thread runs the manager's steps with the update that will be due after them, or
is about to make it. -/
inductive Phase where
  | inside (control : Control) (due : Option Mark)
  | marking (mark : Mark)
deriving DecidableEq, Repr

/-- The update that a callback makes whatever the manager does. -/
def Entry.mark : Entry → Option Mark
  | .onConnectionStateChanged .connected | .onReconnected => some .connected
  | .onConnectionStateChanged .reconnecting | .onReconnecting => some .reconnecting
  | .onConnectionStateChanged .disconnected | .onDisconnected => some .disconnected
  | .poll | .onRoomEos | .stop | .waitForOperations => none

/-- The update due after a step of the manager. A `poll` owes one once it has connected,
and `onRoomEos` once it has ended a session that was not already ended. -/
def dueAfter (before : Control) (choice : Choice) (after : Control) (due : Option Mark) : Option Mark :=
  match before, choice, after with
  | .idle, .call entry, _ => entry.mark
  | .pollAdopt, _, .enable => some .connected
  | .eosExchange _, _, .close => some .disconnected
  | _, _, _ => due

/-- A call that the manager is done with goes on to its update. -/
def resume (control : Control) (due : Option Mark) : Phase :=
  match due with
  | none => .inside control none
  | some mark => if control = .idle then .marking mark else .inside control (some mark)

def lost (before after : Shared) : Bool :=
  before.manager.state = .connected && after.manager.state ≠ .connected

def advanceReported (reported : Reported) : Phase → Choice → Option (Reported × Phase)
  | .inside control due, choice =>
      (advance reported.shared control choice).map fun result =>
        ({ reported with
            shared := result.1
            losses := reported.losses + if lost reported.shared result.1 then 1 else 0 },
          resume result.2 (dueAfter control choice result.2 due))
  | .marking mark, .proceed =>
      some ({ reported with health := reported.health.mark mark }, .inside .idle none)
  | .marking _, _ => none

def reportedProgram : Program Reported Phase Choice := ⟨advanceReported⟩

abbrev ReportedConfig : Type := Pool Reported Phase

def initialReported (threads : Nat) : ReportedConfig :=
  ⟨{}, List.replicate threads (.inside .idle none)⟩

def Phase.control : Phase → Control
  | .inside control _ => control
  | .marking _ => .idle

def Phase.due : Phase → Option Mark
  | .inside _ due => due
  | .marking mark => some mark

def Phase.busy : Phase → Bool
  | .inside control _ => control.transitioning
  | .marking _ => true

def NoCall (config : ReportedConfig) : Prop := config.Nowhere Phase.busy

instance (config : ReportedConfig) : Decidable (NoCall config) :=
  inferInstanceAs (Decidable (config.Nowhere _))

structure HealthAgrees (reported : Reported) : Prop where
  kind : reported.health.kind = .connected ↔ reported.shared.manager.state = .connected
  losses : reported.health.connectionLossCount = reported.losses

/-- The state that an exchange at this point leaves when it finds the given one. -/
def Control.desired : Control → State → State
  | .pollClaim _, .disconnected => .connecting
  | .pollReleaseFailed, .connecting => .disconnected
  | .pollAdopt, .connecting => .connected
  | .reconnectingExchange, .connected => .reconnecting
  | .reconnectedExchange, .reconnecting => .connected
  | .disconnectedExchange previous, state => if state = previous then .waitingForRoomEos else state
  | .eosExchange previous, state => if state = previous then .disconnected else state
  | _, state => state

/-- The diagnostics are not behind the state that the manager leaves. An adopted attempt
may have been reported before. -/
def upToDate (kind : HealthKind) (left entered : State) : Bool :=
  match left, entered with
  | .connecting, .connected => true
  | .connected, _ => kind = .connected
  | .connecting, _ | _, .connecting | _, .connected => kind ≠ .connected
  | _, _ => true

/-- The update agrees with the state the manager is in. While it is connecting the
diagnostics may say so early, but may not take it back. -/
def Mark.agrees (mark : Mark) (kind : HealthKind) (state : State) : Bool :=
  match mark, state with
  | .connected, .connected | .connected, .connecting => true
  | .connected, _ => false
  | _, .connected => false
  | _, .connecting => kind ≠ .connected
  | _, _ => true

/-- A thread's next step comes while the diagnostics and the manager are in step. -/
def Phase.timely (reported : Reported) : Phase → Bool
  | .inside control _ =>
      let state := reported.shared.manager.state
      state = control.desired state || upToDate reported.health.kind state (control.desired state)
  | .marking mark => mark.agrees reported.health.kind reported.shared.manager.state

/-- `stop` is not called, and the diagnostics and the manager take turns. -/
def TakesTurns (config : ReportedConfig) (label : Nat × Choice) : Prop :=
  label.2 ≠ .call .stop ∧ ∀ phase ∈ config.threads[label.1]?, phase.timely config.shared = true

instance (config : ReportedConfig) (label : Nat × Choice) : Decidable (TakesTurns config label) :=
  inferInstanceAs (Decidable (_ ∧ ∀ phase ∈ config.threads[label.1]?, _))

def NotStopped (_ : ReportedConfig) (label : Nat × Choice) : Prop := label.2 ≠ .call .stop

instance (config : ReportedConfig) (label : Nat × Choice) : Decidable (NotStopped config label) :=
  inferInstanceAs (Decidable (_ ≠ _))

def ReportedConfig.manager (config : ReportedConfig) : Config :=
  ⟨config.shared.shared, config.threads.map Phase.control⟩

/-- What a step does to the diagnostics and to the manager: it is a step of one of them. -/
inductive ReportedStep (reported : Reported) : Phase → Choice → Reported → Phase → Prop where
  | manager {control after : Control} {due : Option Mark} {choice : Choice} {shared : Shared} :
      Transition reported.shared control choice shared after →
      ReportedStep reported (.inside control due) choice
        { reported with
          shared := shared
          losses := reported.losses + if lost reported.shared shared then 1 else 0 }
        (resume after (dueAfter control choice after due))
  | marked {mark : Mark} :
      ReportedStep reported (.marking mark) .proceed
        { reported with health := reported.health.mark mark } (.inside .idle none)

theorem advanceReported_step {reported next : Reported} {before after : Phase} {choice : Choice}
    (advanced : advanceReported reported before choice = some (next, after)) :
    ReportedStep reported before choice next after := by
  cases before with
  | inside control due =>
      obtain ⟨⟨shared, moved⟩, stepped, same⟩ := Option.map_eq_some_iff.mp advanced
      cases same
      exact .manager (advance_transition stepped)
  | marking mark =>
      cases choice with
      | proceed =>
          cases advanced
          exact .marked
      | call | time | connected | spurious => cases advanced

@[simp] theorem resume_control (control : Control) (due : Option Mark) :
    (resume control due).control = control := by
  cases due with
  | none => rfl
  | some mark =>
      by_cases idle : control = .idle
      · simp [resume, idle, Phase.control]
      · simp [resume, idle, Phase.control]

@[simp] theorem resume_due (control : Control) (due : Option Mark) : (resume control due).due = due := by
  cases due with
  | none => rfl
  | some mark =>
      by_cases idle : control = .idle
      · simp [resume, idle, Phase.due]
      · simp [resume, idle, Phase.due]

/-- The manager does not notice the diagnostics: a step of the two is a step of the
manager or leaves it as it is. -/
theorem manager_step {config next : ReportedConfig} {label : Nat × Choice}
    (stepped : reportedProgram.machine.step? config label = some next) :
    next.manager = config.manager ∨ program.machine.step? config.manager label = some next.manager := by
  obtain ⟨thread, choice⟩ := label
  simp only [Program.machine, reportedProgram] at stepped
  cases found : config.threads[thread]? with
  | none => simp [found] at stepped
  | some phase =>
      cases phase with
      | marking mark =>
          left
          cases choice with
          | proceed =>
              simp only [found, advanceReported, Option.some.injEq] at stepped
              subst stepped
              obtain ⟨inside, same⟩ := List.getElem?_eq_some_iff.mp found
              have unmoved : Phase.control (.inside .idle none) = config.threads[thread].control :=
                (congrArg Phase.control same).symm
              simp only [ReportedConfig.manager, List.map_set]
              rw [unmoved, ← List.map_set, List.set_getElem_self]
          | call | time | connected | spurious => simp [found, advanceReported] at stepped
      | inside control due =>
          right
          simp only [found, advanceReported] at stepped
          cases advanced : advance config.shared.shared control choice with
          | none => simp [advanced] at stepped
          | some result =>
              simp only [advanced, Option.map_some, Option.some.injEq] at stepped
              subst stepped
              have running : (config.threads.map Phase.control)[thread]? = some control := by
                rw [List.getElem?_map, found]
                rfl
              simp [Program.machine, program, ReportedConfig.manager, running, advanced, List.map_set]

theorem manager_of_run {permitted : ReportedConfig → Nat × Choice → Prop} {threads : Nat}
    {config : ReportedConfig}
    (run : reportedProgram.machine.Run permitted (initialReported threads) config) :
    program.machine.Reaches (initial threads) config.manager := by
  induction run with
  | refl =>
      have same : (initialReported threads).manager = initial threads := by
        simp [ReportedConfig.manager, initialReported, initial, Phase.control]
      rw [same]
      exact .refl
  | step _ _ stepped ih =>
      rcases manager_step stepped with kept | taken
      · rw [kept]
        exact ih
      · exact .step ih trivial taken

end RosPortal.Connection
