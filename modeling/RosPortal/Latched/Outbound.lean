import RosPortal.Interleaving.Machine
import RosPortal.Latched.History

/-! The subscription callbacks and the push worker of one forwarder, interleaved at the
sections that hold `state_mutex_` and at the RPCs, while peers join and leave. -/

set_option autoImplicit false

namespace RosPortal.Latched

open Interleaving

/-- A call of `storeOutboundMessage` in progress, before its first or its second locked
section. The callback group is reentrant, so any number may be in progress. -/
inductive Callback where
  | look (publisher : Publisher) (sample : Sample)
  | store (publisher : Publisher) (sample : Sample)
deriving DecidableEq, Repr

/-- The local variables of `pushToPeers` after its locked section; `identities` and
`skipped` are read by no step. -/
structure Push where
  identities : List String
  messages : List StoredMessage
  version : Nat
  targets : List String
  skipped : List String
deriving DecidableEq, Repr

/-- Where the push worker is. `rest` are the messages still to send to the target. -/
inductive Worker where
  | idle
  | listing
  | reconciling (identities : List String)
  | pushing (push : Push)
  | sending (push : Push) (id : String) (rest : List StoredMessage)
  | awaiting (push : Push) (id : String) (rest : List StoredMessage)
  | recording (push : Push) (id : String) (delivered : Bool)
deriving DecidableEq, Repr

structure State where
  forwarder : LatchedTopicForwarder := {}
  room : List String := []
  callbacks : List Callback := []
  worker : Worker := .idle
  history : History := []

/-- One step, with what the environment decides in it. -/
inductive Label where
  | join (id : String)
  | leave (id : String)
  | receive (publisher : Publisher) (sample : Sample) (available : Bool)
  | callback (index : Nat)
  | wake (available : Bool)
  | list (available : Bool)
  | reconcile
  | pick (id : String)
  | perform
  | answer (succeeded : Bool)
  | record
  | finish
deriving DecidableEq, Repr

namespace State

variable (options : Options) (library : Library) (state : State)

def join? (id : String) : Option State :=
  if id ∈ state.room then none
  else some { state with room := id :: state.room, history := .joined id :: state.history }

def leave? (id : String) : Option State :=
  if id ∈ state.room then
    some { state with
      room := state.room.filter fun peer => peer ≠ id
      history := .left id :: state.history }
  else none

/-- A subscription callback begins: a sample is skipped while the room is unavailable. -/
def receive (publisher : Publisher) (sample : Sample) (available : Bool) : State :=
  if available then
    { state with
      callbacks := state.callbacks ++ [.look publisher sample]
      history := .received publisher sample :: state.history }
  else state

/-- The first locked section, and outside it the encoding and the limit. -/
def look (index : Nat) (publisher : Publisher) (sample : Sample) : State :=
  if state.forwarder.holds (library.contentHash sample) then
    { state with callbacks := state.callbacks.eraseIdx index }
  else if library.dumpSize sample.request > kMaxRpcPayloadBytes then
    { state with callbacks := state.callbacks.eraseIdx index }
  else { state with callbacks := state.callbacks.set index (.store publisher sample) }

/-- The second locked section: another callback may have stored identical content. -/
def store (index : Nat) (publisher : Publisher) (sample : Sample) : State :=
  if state.forwarder.holds (library.contentHash sample) then
    { state with callbacks := state.callbacks.eraseIdx index }
  else
    { state with
      forwarder := state.forwarder.store options (library.message sample)
      callbacks := state.callbacks.eraseIdx index
      history := .stored publisher sample :: state.history }

def callback? (index : Nat) : Option State :=
  match state.callbacks[index]? with
  | none => none
  | some (.look publisher sample) => some (state.look library index publisher sample)
  | some (.store publisher sample) => some (state.store options library index publisher sample)

def wake (available : Bool) : State :=
  if available then
    { state with worker := .listing, history := .cycleStarted :: state.history }
  else
    { state with history := .cycleEnded :: .roomUnavailable :: .cycleStarted :: state.history }

/-- `list_remote_identities` names no one while room operations are disabled. -/
def list (available : Bool) : State :=
  if available then { state with worker := .reconciling state.room }
  else { state with worker := .reconciling [], history := .roomUnavailable :: state.history }

/-- The locked section of `pushToPeers`. -/
def reconcile (identities : List String) : State :=
  let forwarder := state.forwarder.reconcileRoster identities
  let history := .reconciled (state.forwarder.enrolled identities) :: state.history
  if forwarder.messages = [] then
    { state with forwarder, worker := .idle, history := .cycleEnded :: history }
  else
    let push : Push :=
      { identities, messages := forwarder.messages, version := forwarder.version
        targets := forwarder.targets options identities
        skipped := forwarder.skipped options identities }
    { state with
      forwarder
      worker := .pushing push
      history := .snapshot push.messages push.skipped :: history }

def pick? (push : Push) (id : String) : Option State :=
  if id ∈ push.targets then
    some { state with
      worker :=
        .sending { push with targets := push.targets.filter fun peer => peer ≠ id } id push.messages }
  else none

/-- The next RPC to the target, or the end of its messages. -/
def perform (push : Push) (id : String) (rest : List StoredMessage) : State :=
  match rest with
  | [] => { state with worker := .recording push id true }
  | message :: rest =>
      { state with worker := .awaiting push id rest, history := .sent id message :: state.history }

def answer (push : Push) (id : String) (rest : List StoredMessage) (succeeded : Bool) : State :=
  if succeeded then { state with worker := .sending push id rest }
  else { state with worker := .recording push id false, history := .failed id :: state.history }

def record (push : Push) (id : String) (delivered : Bool) : State :=
  { state with
    forwarder := state.forwarder.record id push.version delivered
    worker := .pushing push
    history :=
      if (state.forwarder.participantStates id).isSome && delivered then
        .delivered id push.version :: state.history
      else state.history }

def finish? (push : Push) : Option State :=
  if push.targets = [] then
    some { state with worker := .idle, history := .cycleEnded :: state.history }
  else none

end State

def step? (options : Options) (library : Library) (state : State) (label : Label) : Option State :=
  match label, state.worker with
  | .join id, _ => state.join? id
  | .leave id, _ => state.leave? id
  | .receive publisher sample available, _ => some (state.receive publisher sample available)
  | .callback index, _ => state.callback? options library index
  | .wake available, .idle => some (state.wake available)
  | .list available, .listing => some (state.list available)
  | .reconcile, .reconciling identities => some (state.reconcile options identities)
  | .pick id, .pushing push => state.pick? push id
  | .perform, .sending push id rest => some (state.perform push id rest)
  | .answer succeeded, .awaiting push id rest => some (state.answer push id rest succeeded)
  | .record, .recording push id delivered => some (state.record push id delivered)
  | .finish, .pushing push => state.finish? push
  | _, _ => none

def machine (options : Options) (library : Library) : Machine State Label where
  step? := step? options library

inductive Transition (options : Options) (library : Library) (state : State) :
    Label → State → Prop where
  | joined {id : String} (absent : id ∉ state.room) :
      Transition options library state (.join id)
        { state with room := id :: state.room, history := .joined id :: state.history }
  | left {id : String} (present : id ∈ state.room) :
      Transition options library state (.leave id)
        { state with
          room := state.room.filter fun peer => peer ≠ id
          history := .left id :: state.history }
  | received {publisher : Publisher} {sample : Sample} :
      Transition options library state (.receive publisher sample true)
        { state with
          callbacks := state.callbacks ++ [.look publisher sample]
          history := .received publisher sample :: state.history }
  | notReceived {publisher : Publisher} {sample : Sample} :
      Transition options library state (.receive publisher sample false) state
  | dropped {index : Nat} {callback : Callback} (running : state.callbacks[index]? = some callback) :
      Transition options library state (.callback index)
        { state with callbacks := state.callbacks.eraseIdx index }
  | encoded {index : Nat} {publisher : Publisher} {sample : Sample}
      (running : state.callbacks[index]? = some (.look publisher sample))
      (fits : library.dumpSize sample.request ≤ kMaxRpcPayloadBytes) :
      Transition options library state (.callback index)
        { state with callbacks := state.callbacks.set index (.store publisher sample) }
  | stored {index : Nat} {publisher : Publisher} {sample : Sample}
      (running : state.callbacks[index]? = some (.store publisher sample))
      (distinct : state.forwarder.holds (library.contentHash sample) = false) :
      Transition options library state (.callback index)
        { state with
          forwarder := state.forwarder.store options (library.message sample)
          callbacks := state.callbacks.eraseIdx index
          history := .stored publisher sample :: state.history }
  | woken (idle : state.worker = .idle) :
      Transition options library state (.wake true)
        { state with worker := .listing, history := .cycleStarted :: state.history }
  | skipped (idle : state.worker = .idle) :
      Transition options library state (.wake false)
        { state with history := .cycleEnded :: .roomUnavailable :: .cycleStarted :: state.history }
  | listed (listing : state.worker = .listing) :
      Transition options library state (.list true) { state with worker := .reconciling state.room }
  | notListed (listing : state.worker = .listing) :
      Transition options library state (.list false)
        { state with worker := .reconciling [], history := .roomUnavailable :: state.history }
  | reconciled {identities : List String} (reconciling : state.worker = .reconciling identities) :
      Transition options library state .reconcile (state.reconcile options identities)
  | picked {push : Push} {id : String} (pushing : state.worker = .pushing push)
      (target : id ∈ push.targets) :
      Transition options library state (.pick id)
        { state with
          worker :=
            .sending { push with targets := push.targets.filter fun peer => peer ≠ id } id push.messages }
  | performed {push : Push} {id : String} {message : StoredMessage} {rest : List StoredMessage}
      (sending : state.worker = .sending push id (message :: rest)) :
      Transition options library state .perform
        { state with worker := .awaiting push id rest, history := .sent id message :: state.history }
  | performedAll {push : Push} {id : String} (sending : state.worker = .sending push id []) :
      Transition options library state .perform { state with worker := .recording push id true }
  | answered {push : Push} {id : String} {rest : List StoredMessage}
      (awaiting : state.worker = .awaiting push id rest) :
      Transition options library state (.answer true) { state with worker := .sending push id rest }
  | failed {push : Push} {id : String} {rest : List StoredMessage}
      (awaiting : state.worker = .awaiting push id rest) :
      Transition options library state (.answer false)
        { state with worker := .recording push id false, history := .failed id :: state.history }
  | recorded {push : Push} {id : String} {delivered : Bool}
      (recording : state.worker = .recording push id delivered) :
      Transition options library state .record (state.record push id delivered)
  | finished {push : Push} (pushing : state.worker = .pushing push) (done : push.targets = []) :
      Transition options library state .finish
        { state with worker := .idle, history := .cycleEnded :: state.history }

section Inversion

variable {options : Options} {library : Library} {state next : State}

theorem join?_transition {id : String} (stepped : state.join? id = some next) :
    Transition options library state (.join id) next := by
  unfold State.join? at stepped
  split at stepped
  · cases stepped
  · cases stepped
    exact .joined ‹_›

theorem leave?_transition {id : String} (stepped : state.leave? id = some next) :
    Transition options library state (.leave id) next := by
  unfold State.leave? at stepped
  split at stepped
  · cases stepped
    exact .left ‹_›
  · cases stepped

theorem callback?_transition {index : Nat} (stepped : state.callback? options library index = some next) :
    Transition options library state (.callback index) next := by
  unfold State.callback? at stepped
  split at stepped
  · cases stepped
  case h_2 publisher sample running =>
    cases stepped
    unfold State.look
    split
    · exact .dropped running
    · split
      · exact .dropped running
      · exact .encoded running (Nat.le_of_not_lt ‹_›)
  case h_3 publisher sample running =>
    cases stepped
    unfold State.store
    split
    · exact .dropped running
    · exact .stored running (Bool.eq_false_iff.mpr ‹_›)

theorem step_transition {label : Label} (stepped : (machine options library).step? state label = some next) :
    Transition options library state label next := by
  simp only [machine, step?] at stepped
  split at stepped
  · exact join?_transition stepped
  · exact leave?_transition stepped
  case h_3 _ publisher sample available =>
    cases stepped
    cases available with
    | true => exact .received
    | false => exact .notReceived
  · exact callback?_transition stepped
  case h_5 available idle =>
    cases stepped
    cases available with
    | true => exact .woken idle
    | false => exact .skipped idle
  case h_6 available listing =>
    cases stepped
    cases available with
    | true => exact .listed listing
    | false => exact .notListed listing
  case h_7 identities reconciling =>
    cases stepped
    exact .reconciled reconciling
  case h_8 id push pushing =>
    unfold State.pick? at stepped
    split at stepped
    · cases stepped
      exact .picked pushing ‹_›
    · cases stepped
  case h_9 push id rest sending =>
    cases stepped
    cases rest with
    | nil => exact .performedAll sending
    | cons message rest => exact .performed sending
  case h_10 succeeded push id rest awaiting =>
    cases stepped
    cases succeeded with
    | true => exact .answered awaiting
    | false => exact .failed awaiting
  case h_11 push id delivered recording =>
    cases stepped
    exact .recorded recording
  case h_12 push pushing =>
    unfold State.finish? at stepped
    split at stepped
    · cases stepped
      exact .finished pushing ‹_›
    · cases stepped
  · cases stepped

end Inversion

end RosPortal.Latched
