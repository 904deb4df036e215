import RosPortal.Connection.RtcSummary
import RosPortal.Interleaving.ThreadPool

/-! `ConnectionHealthDiagnostics`: the callbacks of the room and the polls for statistics, each
section under the mutex one step. What is reported is compared with what has happened. -/

set_option autoImplicit false

namespace RosPortal.Connection.Diagnostics

open Interleaving

/-- A request of the statistics, with how often the connection had been lost when it was made. -/
structure Request where
  period : Nat
deriving DecidableEq, Repr

inductive Entry (Number : Type) where
  | marked (mark : Mark)
  | applied (request : Request) (stats : SessionStats Number)
  | failed
deriving DecidableEq

/-- The members of `ConnectionHealthDiagnostics`. `log` is what has happened, the last first. -/
structure Shared (Number : Type) where
  state : HealthState Number := {}
  pendingStats : Option Request := none
  log : List (Entry Number) := []
deriving DecidableEq

/-- Where a thread is between two sections: in `updatePeerCount`, in `updateStatsFromReadyFuture`
and in the rest of `pollStats`. -/
inductive Control (Number : Type) where
  | idle
  | countingPeers
  | storingPeers (numPeers : Nat)
  | harvesting
  | getting (request : Request)
  | applying (request : Request) (stats : SessionStats Number)
  | getFailed
  | checking
  | requesting
  | storing (request : Request)
  | requestFailed
deriving DecidableEq

inductive Call where
  | markConnected (roomName : String)
  | markReconnecting
  | markDisconnected
  | onRoomUpdated (roomName : String)
  | peersChanged
  | pollStats
deriving DecidableEq, Repr

/-- What the environment decides: the calls, and what the room and its futures answer. -/
inductive Choice (Number : Type) where
  | call (call : Call)
  | proceed
  | peers (numPeers : Nat)
  | ready (ready : Bool)
  | stats (stats : SessionStats Number)
  | throws
deriving DecidableEq

variable {Number : Type}

def HealthState.health (state : HealthState Number) : Health :=
  ⟨state.kind, state.connectionLossCount, state.reconnectCount⟩

def markConnected (shared : Shared Number) (roomName : String) : Shared Number :=
  { shared with
    state := { shared.state with kind := .connected, roomName }
    log := .marked .connected :: shared.log }

def markDisconnected (shared : Shared Number) : Shared Number :=
  { state := clearRtcSummary
      { shared.state with
        connectionLossCount :=
          if shared.state.kind = .connected then shared.state.connectionLossCount + 1
          else shared.state.connectionLossCount
        kind := .disconnected
        roomName := ""
        numPeers := 0 }
    pendingStats := none
    log := .marked .disconnected :: shared.log }

def markReconnecting (shared : Shared Number) : Shared Number :=
  { state := clearRtcSummary
      { shared.state with
        connectionLossCount :=
          if shared.state.kind = .connected then shared.state.connectionLossCount + 1
          else shared.state.connectionLossCount
        reconnectCount :=
          if shared.state.kind = .connected then shared.state.reconnectCount + 1
          else shared.state.reconnectCount
        kind := .reconnecting }
    pendingStats := none
    log := .marked .reconnecting :: shared.log }

def enter (shared : Shared Number) : Call → Shared Number × Control Number
  | .markConnected roomName => (markConnected shared roomName, .countingPeers)
  | .markReconnecting => (markReconnecting shared, .countingPeers)
  | .markDisconnected => (markDisconnected shared, .idle)
  | .onRoomUpdated roomName =>
      ({ shared with state := { shared.state with roomName } }, .countingPeers)
  | .peersChanged => (shared, .countingPeers)
  | .pollStats => (shared, .harvesting)

/-- How often a mark other than `markConnected` has been made. -/
def breaks (log : List (Entry Number)) : Nat :=
  log.countP fun entry =>
    match entry with
    | .marked .connected | .applied _ _ | .failed => false
    | .marked .reconnecting | .marked .disconnected => true

def advance (arithmetic : Arithmetic Number) (shared : Shared Number) :
    Control Number → Choice Number → Option (Shared Number × Control Number)
  | .idle, .call call => some (enter shared call)
  | .countingPeers, .peers numPeers => some (shared, .storingPeers numPeers)
  | .storingPeers numPeers, .proceed =>
      some ({ shared with state := { shared.state with numPeers } }, .idle)
  | .harvesting, .ready ready =>
      match shared.pendingStats with
      | none => some (shared, .checking)
      | some request =>
          if ready then some ({ shared with pendingStats := none }, .getting request)
          else some (shared, .checking)
  | .getting request, .stats stats => some (shared, .applying request stats)
  | .getting _, .throws => some (shared, .getFailed)
  | .applying request stats, .proceed =>
      if shared.state.kind = .connected then
        some ({ shared with
          state := updateStatsSnapshot arithmetic shared.state stats
          log := .applied request stats :: shared.log }, .checking)
      else some (shared, .checking)
  | .getFailed, .proceed =>
      some ({ shared with state := clearRtcSummary shared.state, log := .failed :: shared.log }, .checking)
  | .checking, .proceed =>
      if shared.pendingStats.isSome ∨ shared.state.kind ≠ .connected then some (shared, .idle)
      else some (shared, .requesting)
  | .requesting, .proceed => some (shared, .storing ⟨breaks shared.log⟩)
  | .requesting, .throws => some (shared, .requestFailed)
  | .storing request, .proceed =>
      if shared.state.kind = .connected ∧ shared.pendingStats = none then
        some ({ shared with pendingStats := some request }, .idle)
      else some (shared, .idle)
  | .requestFailed, .proceed =>
      some ({ state := clearRtcSummary shared.state, pendingStats := none, log := .failed :: shared.log }, .idle)
  | _, _ => none

def diagnostics (arithmetic : Arithmetic Number) : Program (Shared Number) (Control Number) (Choice Number) :=
  ⟨advance arithmetic⟩

abbrev Config (Number : Type) : Type := Pool (Shared Number) (Control Number)

def initial (threads : Nat) : Config Number := ⟨{}, List.replicate threads .idle⟩

section Report

/-- What can be said of the traffic by a snapshot alone. -/
def counters (arithmetic : Arithmetic Number) (stats : SessionStats Number) : Option TrafficCounters :=
  let accumulator := summarizeRawStats arithmetic stats
  (selectCandidatePair accumulator (selectTransport accumulator)).map fun pair =>
    ⟨pair.id, pair.timestampMs, pair.stats.bytesSent, pair.stats.bytesReceived⟩

/-- The rate of a counter between two snapshots of one candidate pair. -/
def rate (arithmetic : Arithmetic Number) (bytes : TrafficCounters → UInt64) :
    Option TrafficCounters → Option TrafficCounters → Option Number
  | some earlier, some later =>
      if earlier.candidatePairId = later.candidatePairId then
        computeBitrate arithmetic (bytes earlier) (bytes later) (later.timestampMs - earlier.timestampMs)
      else none
  | _, _ => none

/-- The summary of a snapshot, of the one before it only the counters. -/
def summaryOf (arithmetic : Arithmetic Number) (earlier : Option TrafficCounters)
    (stats : SessionStats Number) : RtcSummary Number :=
  { (makeRtcSummary arithmetic {} stats).rtcSummary with
    sendBitrateBps := rate arithmetic (·.bytesSent) earlier (counters arithmetic stats)
    receiveBitrateBps := rate arithmetic (·.bytesReceived) earlier (counters arithmetic stats) }

/-- The snapshots since the connection was last lost or a request last failed, the last first. -/
def current : List (Entry Number) → List (SessionStats Number)
  | [] => []
  | .applied _ stats :: log => stats :: current log
  | .marked .connected :: log => current log
  | .marked .reconnecting :: _ | .marked .disconnected :: _ | .failed :: _ => []

def reportedSummary (arithmetic : Arithmetic Number) : List (SessionStats Number) → RtcSummary Number
  | [] => {}
  | stats :: earlier => summaryOf arithmetic (earlier.head?.bind (counters arithmetic)) stats

/-- The kinds of connection that the marks have gone through, the last first. -/
def marks (log : List (Entry Number)) : List Mark :=
  log.filterMap fun entry =>
    match entry with
    | .marked mark => some mark
    | .applied _ _ | .failed => none

/-- What the marks alone make of the connection, from the first to the last. -/
def healthAfter (log : List (Entry Number)) : Health := (marks log).foldr (fun mark health => health.mark mark) {}

end Report

theorem makeRtcSummary_eq (arithmetic : Arithmetic Number) (state : HealthState Number)
    (stats : SessionStats Number) :
    makeRtcSummary arithmetic state stats =
      { state with
        rtcSummary := summaryOf arithmetic state.previousTraffic stats
        previousTraffic := counters arithmetic stats } := by
  cases selected : selectCandidatePair (summarizeRawStats arithmetic stats)
      (selectTransport (summarizeRawStats arithmetic stats)) with
  | none => cases previous : state.previousTraffic <;>
      simp [makeRtcSummary, summaryOf, counters, selected, rate]
  | some pair =>
      cases previous : state.previousTraffic with
      | none => simp [makeRtcSummary, summaryOf, counters, selected, rate, updateBitrates, previous]
      | some earlier =>
          by_cases same : earlier.candidatePairId = pair.id
          · simp [makeRtcSummary, summaryOf, counters, selected, rate, updateBitrates, previous, same]
          · simp [makeRtcSummary, summaryOf, counters, selected, rate, updateBitrates, previous, same]

/-- What a step of a thread does to the members, its effect on its own place apart. -/
inductive Effect (arithmetic : Arithmetic Number) (shared : Shared Number) : Shared Number → Prop where
  | connected (roomName : String) : Effect arithmetic shared (markConnected shared roomName)
  | reconnecting : Effect arithmetic shared (markReconnecting shared)
  | disconnected : Effect arithmetic shared (markDisconnected shared)
  | described (roomName : String) (numPeers : Nat) :
      Effect arithmetic shared { shared with state := { shared.state with roomName, numPeers } }
  | taken : Effect arithmetic shared { shared with pendingStats := none }
  | stored (request : Request) : shared.state.kind = .connected →
      Effect arithmetic shared { shared with pendingStats := some request }
  | applied (request : Request) (stats : SessionStats Number) : shared.state.kind = .connected →
      Effect arithmetic shared
        { shared with
          state := updateStatsSnapshot arithmetic shared.state stats
          log := .applied request stats :: shared.log }
  | failed (pendingStats : Option Request) : pendingStats = none ∨ pendingStats = shared.pendingStats →
      Effect arithmetic shared
        { state := clearRtcSummary shared.state, pendingStats, log := .failed :: shared.log }

theorem Effect.unchanged (arithmetic : Arithmetic Number) (shared : Shared Number) :
    Effect arithmetic shared shared :=
  .described shared.state.roomName shared.state.numPeers

theorem enter_effect (arithmetic : Arithmetic Number) (shared : Shared Number) (call : Call) :
    Effect arithmetic shared (enter shared call).1 := by
  cases call with
  | markConnected roomName => exact .connected roomName
  | markReconnecting => exact .reconnecting
  | markDisconnected => exact .disconnected
  | onRoomUpdated roomName => exact .described roomName shared.state.numPeers
  | peersChanged | pollStats => exact .unchanged arithmetic shared

theorem advance_effect {arithmetic : Arithmetic Number} {shared shared' : Shared Number}
    {before after : Control Number} {choice : Choice Number}
    (advanced : advance arithmetic shared before choice = some (shared', after)) :
    Effect arithmetic shared shared' := by
  revert advanced
  fun_cases advance arithmetic shared before choice <;> intro advanced <;>
    simp only [Option.some.injEq, Prod.mk.injEq, reduceCtorEq] at advanced
  · have entered := enter_effect arithmetic shared ‹Call›
    rwa [advanced] at entered
  all_goals obtain ⟨rfl, -⟩ := advanced
  all_goals first
    | exact .unchanged arithmetic shared
    | exact .described _ _
    | exact .taken
    | exact .applied _ _ ‹_›
    | exact .failed _ (.inr rfl)
    | exact .failed _ (.inl rfl)
    | exact .stored _ (And.left ‹_›)

/-- The members report what the log says. -/
structure Reporting (arithmetic : Arithmetic Number) (shared : Shared Number) : Prop where
  health : shared.state.health = healthAfter shared.log
  summary : shared.state.rtcSummary = reportedSummary arithmetic (current shared.log)
  traffic : shared.state.previousTraffic =
    (current shared.log).head?.bind (counters arithmetic)
  quiet : shared.state.kind ≠ .connected → current shared.log = [] ∧ shared.pendingStats = none

theorem healthAfter_marked (mark : Mark) (log : List (Entry Number)) :
    healthAfter (.marked mark :: log) = (healthAfter log).mark mark := rfl

theorem reporting_step {arithmetic : Arithmetic Number} {shared shared' : Shared Number}
    (reporting : Reporting arithmetic shared) (effect : Effect arithmetic shared shared') :
    Reporting arithmetic shared' := by
  obtain ⟨health, summary, traffic, quiet⟩ := reporting
  cases effect with
  | connected roomName =>
      refine ⟨?_, summary, traffic, fun other => absurd rfl other⟩
      rw [markConnected, healthAfter_marked, ← health]
      rfl
  | reconnecting =>
      refine ⟨?_, rfl, rfl, fun _ => ⟨rfl, rfl⟩⟩
      rw [markReconnecting, healthAfter_marked, ← health]
      rfl
  | disconnected =>
      refine ⟨?_, rfl, rfl, fun _ => ⟨rfl, rfl⟩⟩
      rw [markDisconnected, healthAfter_marked, ← health]
      rfl
  | described => exact ⟨health, summary, traffic, quiet⟩
  | taken => exact ⟨health, summary, traffic, fun other => ⟨(quiet other).1, rfl⟩⟩
  | stored request connected => exact ⟨health, summary, traffic, fun other => absurd connected other⟩
  | applied request stats connected =>
      rw [updateStatsSnapshot, makeRtcSummary_eq]
      refine ⟨health, ?_, rfl, fun other => absurd connected other⟩
      rw [traffic]
      rfl
  | failed pendingStats left =>
      refine ⟨health, rfl, rfl, fun other => ⟨rfl, ?_⟩⟩
      rcases left with rfl | rfl
      · rfl
      · exact (quiet other).2

theorem reporting_of_run {arithmetic : Arithmetic Number} {threads : Nat} {config : Config Number}
    (run : (diagnostics arithmetic).machine.Reaches (initial threads) config) :
    Reporting arithmetic config.shared := by
  induction run with
  | refl => exact ⟨rfl, rfl, rfl, fun _ => ⟨rfl, rfl⟩⟩
  | step _ _ stepped reporting =>
      obtain ⟨before, after, step⟩ := Program.stepOf stepped
      exact reporting_step reporting (advance_effect step.advanced)

theorem reconnects_le_losses (log : List (Entry Number)) :
    (healthAfter log).reconnectCount ≤ (healthAfter log).connectionLossCount := by
  unfold healthAfter
  induction marks log with
  | nil => exact Nat.le_refl _
  | cons mark marks ih =>
      rw [List.foldr_cons]
      generalize marks.foldr (fun mark health => health.mark mark) ({} : Health) = health at ih ⊢
      cases mark with
      | connected => exact ih
      | reconnecting =>
          by_cases was : health.kind = .connected
          · simpa [Health.mark, Health.markReconnecting, was] using ih
          · simpa [Health.mark, Health.markReconnecting, was] using ih
      | disconnected =>
          by_cases was : health.kind = .connected
          · simpa [Health.mark, Health.markDisconnected, was] using Nat.le_succ_of_le ih
          · simpa [Health.mark, Health.markDisconnected, was] using ih

/-- A rate needs two snapshots of one candidate pair, the later one with a later time and no
smaller counter. -/
theorem rate_eq_some {arithmetic : Arithmetic Number} {bytes : TrafficCounters → UInt64}
    {earlier later : Option TrafficCounters} {reported : Number}
    (found : rate arithmetic bytes earlier later = some reported) :
    ∃ before now, earlier = some before ∧ later = some now ∧
      before.candidatePairId = now.candidatePairId ∧ before.timestampMs < now.timestampMs ∧
      bytes before ≤ bytes now ∧
      reported = arithmetic.bitrate (bytes now - bytes before) (now.timestampMs - before.timestampMs) := by
  cases earlier with
  | none => cases found
  | some before =>
      cases later with
      | none => cases found
      | some now =>
          simp only [rate, computeBitrate, Option.ite_none_right_eq_some, Option.ite_none_left_eq_some,
            Option.some.injEq, not_or, Int.not_le, UInt64.not_lt] at found
          obtain ⟨same, ⟨elapsed, grown⟩, rfl⟩ := found
          exact ⟨before, now, rfl, rfl, same, by omega, grown, rfl⟩

/-- The bitrate is that of a counter between the last two snapshots, which are of one candidate pair. -/
def BitrateOf (arithmetic : Arithmetic Number) (bytes : TrafficCounters → UInt64)
    (snapshots : List (SessionStats Number)) (bitrate : Number) : Prop :=
  ∃ latest earlier older now before, snapshots = latest :: earlier :: older ∧
    counters arithmetic latest = some now ∧ counters arithmetic earlier = some before ∧
    before.candidatePairId = now.candidatePairId ∧ before.timestampMs < now.timestampMs ∧
    bytes before ≤ bytes now ∧
    bitrate = arithmetic.bitrate (bytes now - bytes before) (now.timestampMs - before.timestampMs)

theorem bitrateOf_rate {arithmetic : Arithmetic Number} {bytes : TrafficCounters → UInt64}
    {latest : SessionStats Number} {rest : List (SessionStats Number)} {bitrate : Number}
    (shown : rate arithmetic bytes (rest.head?.bind (counters arithmetic)) (counters arithmetic latest) =
      some bitrate) : BitrateOf arithmetic bytes (latest :: rest) bitrate := by
  obtain ⟨before, now, earlierFound, found, facts⟩ := rate_eq_some shown
  cases rest with
  | nil => cases earlierFound
  | cons earlier older => exact ⟨latest, earlier, older, now, before, rfl, found, earlierFound, facts⟩

theorem reportedSummary_bitrates {arithmetic : Arithmetic Number} {snapshots : List (SessionStats Number)} :
    (∀ sent, (reportedSummary arithmetic snapshots).sendBitrateBps = some sent →
      BitrateOf arithmetic (·.bytesSent) snapshots sent) ∧
    ∀ received, (reportedSummary arithmetic snapshots).receiveBitrateBps = some received →
      BitrateOf arithmetic (·.bytesReceived) snapshots received := by
  cases snapshots with
  | nil =>
      constructor
      · intro sent shown
        cases shown
      · intro received shown
        cases shown
  | cons latest rest => exact ⟨fun _ shown => bitrateOf_rate shown, fun _ shown => bitrateOf_rate shown⟩

/-- In every run, whatever the threads of the room and of the polls do, the counters and the kind
are those of the marks made, the statistics are those of the last snapshot since the connection was
lost or a request failed, and a bitrate is one between that snapshot and the one before it. -/
theorem connection_health_reports_log (arithmetic : Arithmetic Number) (threads : Nat)
    (config : Config Number)
    (run : (diagnostics arithmetic).machine.Reaches (initial threads) config) :
    let state := config.shared.state
    let snapshots := current config.shared.log
    state.health = healthAfter config.shared.log ∧
    state.reconnectCount ≤ state.connectionLossCount ∧
    state.rtcSummary = reportedSummary arithmetic snapshots ∧
    (state.kind ≠ .connected →
      state.rtcSummary = {} ∧ state.previousTraffic = none ∧ config.shared.pendingStats = none) ∧
    (∀ sent, state.rtcSummary.sendBitrateBps = some sent → BitrateOf arithmetic (·.bytesSent) snapshots sent) ∧
    ∀ received, state.rtcSummary.receiveBitrateBps = some received →
      BitrateOf arithmetic (·.bytesReceived) snapshots received := by
  intro state snapshots
  have reporting := reporting_of_run run
  refine ⟨reporting.health, ?_, reporting.summary, ?_, ?_, ?_⟩
  · have counted := reconnects_le_losses config.shared.log
    rwa [← reporting.health] at counted
  · intro other
    obtain ⟨none, idle⟩ := reporting.quiet other
    refine ⟨reporting.summary.trans ?_, reporting.traffic.trans ?_, idle⟩
    · rw [none]
      rfl
    · rw [none]
      rfl
  · rw [show state.rtcSummary = _ from reporting.summary]
    exact reportedSummary_bitrates.1
  · rw [show state.rtcSummary = _ from reporting.summary]
    exact reportedSummary_bitrates.2

def intArithmetic : Arithmetic Int where
  secondsToMilliseconds seconds := seconds * 1000
  exceeds first second := decide (second < first)
  bitrate bytes elapsedMs := bytes.toNat * 8 * 1000 / elapsedMs
  render := toString

/-- A session with one transport over one pair of candidates, which has sent so much. -/
def statsAt (timestampMs : Int) (bytesSent : UInt64) : SessionStats Int where
  publisherStats :=
    [.transport { selectedCandidatePairId := "CP1", iceState := some .connected },
      .candidatePair "CP1" timestampMs ⟨some .succeeded, true, bytesSent, 0, 0, 100, 100⟩]
  subscriberStats := [.inboundRtp 2 0, .dataChannel true]

def stepsOf (thread : Nat) (choices : List (Choice Int)) : List (Nat × Choice Int) :=
  choices.map fun choice => (thread, choice)

def pollOnce (thread : Nat) (answered : List (Choice Int)) : List (Nat × Choice Int) :=
  stepsOf thread ([.call .pollStats, .ready true] ++ answered ++ [.proceed, .proceed, .proceed])

def joinOnce (thread : Nat) : List (Nat × Choice Int) :=
  stepsOf thread [.call (.markConnected "room"), .peers 1, .proceed]

theorem bitrate_between_two_polls :
    ∃ config : Config Int, (diagnostics intArithmetic).machine.Reaches (initial 2) config ∧
      config.shared.state.rtcSummary.sendBitrateBps = some 16000 ∧
      config.shared.state.rtcSummary = reportedSummary intArithmetic (current config.shared.log) ∧
      ∃ latest earlier older, current config.shared.log = latest :: earlier :: older := by
  obtain ⟨config, run, shown⟩ := Machine.Reaches.exists_of_exec (diagnostics intArithmetic).machine (initial 2)
    (joinOnce 0 ++ pollOnce 1 [] ++ pollOnce 1 [.stats (statsAt 1000 500), .proceed] ++
      pollOnce 1 [.stats (statsAt 2000 2500), .proceed])
    (fun config => config.shared.state.rtcSummary.sendBitrateBps = some 16000) (by decide +kernel)
  obtain ⟨_, _, summary, _, two, _⟩ := connection_health_reports_log intArithmetic 2 config run
  obtain ⟨latest, earlier, older, _, _, applied, _⟩ := two 16000 shown
  exact ⟨config, run, shown, summary, latest, earlier, older, applied⟩

section Freshness

/-- The request that a thread has taken from the members, or not yet put there. -/
def Control.asking : Control Number → Option Request
  | .getting request | .applying request _ | .storing request => some request
  | _ => none

def Choice.breaks : Choice Number → Bool
  | .call .markReconnecting | .call .markDisconnected => true
  | _ => false

/-- The connection is not lost while a thread has a request in its own hands. -/
def Undisturbed (config : Config Number) (label : Nat × Choice Number) : Prop :=
  label.2.breaks = true → config.Nowhere fun control => control.asking.isSome

instance (config : Config Number) (label : Nat × Choice Number) : Decidable (Undisturbed config label) :=
  inferInstanceAs (Decidable (_ → _))

/-- Every snapshot was applied to the connection that it was requested of. -/
def Prompt : List (Entry Number) → Prop
  | [] => True
  | .applied request _ :: log => request.period = breaks log ∧ Prompt log
  | .marked _ :: log | .failed :: log => Prompt log

def Request.Of (log : List (Entry Number)) (request : Request) : Prop := request.period = breaks log

variable {arithmetic : Arithmetic Number} {shared shared' : Shared Number}
  {before after : Control Number} {choice : Choice Number}

theorem breaks_advance (advanced : advance arithmetic shared before choice = some (shared', after))
    (calm : choice.breaks = false) : breaks shared'.log = breaks shared.log := by
  revert advanced
  fun_cases advance arithmetic shared before choice with
  | case1 call =>
      intro advanced
      cases call with
      | markReconnecting | markDisconnected => cases calm
      | _ =>
          cases advanced
          rfl
  | _ =>
      intro advanced
      cases advanced
      all_goals rfl

theorem pending_advance (advanced : advance arithmetic shared before choice = some (shared', after))
    {request : Request} (pending : shared'.pendingStats = some request) :
    choice.breaks = false ∧ (shared.pendingStats = some request ∨ before.asking = some request) := by
  revert advanced
  fun_cases advance arithmetic shared before choice with
  | case1 call =>
      intro advanced
      cases call with
      | markReconnecting | markDisconnected =>
          cases advanced
          cases pending
      | _ =>
          cases advanced
          exact ⟨rfl, .inl pending⟩
  | _ =>
      intro advanced
      cases advanced
      all_goals first
        | exact ⟨rfl, .inl pending⟩
        | exact ⟨rfl, .inr pending⟩

theorem asking_advance (advanced : advance arithmetic shared before choice = some (shared', after))
    {request : Request} (asking : after.asking = some request) :
    choice.breaks = false ∧ (shared.pendingStats = some request ∨ before.asking = some request ∨
      request.Of shared.log) := by
  revert advanced
  fun_cases advance arithmetic shared before choice with
  | case1 call =>
      intro advanced
      cases call <;> cases advanced <;> cases asking
  | _ =>
      intro advanced
      cases advanced
      all_goals first
        | cases asking
          done
        | (cases asking; exact ⟨rfl, .inl ‹_›⟩)
        | (cases asking; exact ⟨rfl, .inr (.inl rfl)⟩)
        | (cases asking; exact ⟨rfl, .inr (.inr rfl)⟩)

theorem prompt_advance (advanced : advance arithmetic shared before choice = some (shared', after))
    (asked : ∀ request, before.asking = some request → request.Of shared.log)
    (prompt : Prompt shared.log) : Prompt shared'.log := by
  revert advanced
  fun_cases advance arithmetic shared before choice with
  | case1 call =>
      intro advanced
      cases call <;> cases advanced <;> exact prompt
  | _ =>
      intro advanced
      cases advanced
      all_goals first
        | exact prompt
        | exact ⟨asked _ rfl, prompt⟩

/-- What the requests say of their period is true. -/
structure Timely (config : Config Number) : Prop where
  pending : ∀ request, config.shared.pendingStats = some request → request.Of config.shared.log
  asked : ∀ control ∈ config.threads, ∀ request, control.asking = some request →
    request.Of config.shared.log
  prompt : Prompt config.shared.log

theorem timely_initial (threads : Nat) : Timely (initial threads : Config Number) := by
  refine ⟨nofun, ?_, trivial⟩
  intro control member request asking
  rw [List.eq_of_mem_replicate member] at asking
  cases asking

theorem timely_step {config next : Config Number} {label : Nat × Choice Number} (timely : Timely config)
    (undisturbed : Undisturbed config label)
    (stepped : (diagnostics arithmetic).machine.step? config label = some next) : Timely next := by
  obtain ⟨before, after, step⟩ := Program.stepOf stepped
  have running := timely.asked before (List.mem_of_getElem? step.running)
  have of_calm : label.2.breaks = false → ∀ request : Request,
      request.Of config.shared.log → request.Of next.shared.log := by
    intro calm request of
    rw [Request.Of, breaks_advance step.advanced calm]
    exact of
  constructor
  · intro request pending
    obtain ⟨calm, held | held⟩ := pending_advance step.advanced pending
    · exact of_calm calm request (timely.pending request held)
    · exact of_calm calm request (running request held)
  · intro control member request asking
    obtain ⟨other, found⟩ := List.mem_iff_getElem?.mp member
    rcases step.thread_cases found with ⟨_, rfl⟩ | ⟨_, earlier⟩
    · obtain ⟨calm, held | held | made⟩ := asking_advance step.advanced asking
      · exact of_calm calm request (timely.pending request held)
      · exact of_calm calm request (running request held)
      · exact of_calm calm request made
    · -- the request of a thread that waits is kept, for the step is not one that loses the connection
      have calm : label.2.breaks = false := by
        by_contra breaking
        rw [Bool.not_eq_false] at breaking
        have free := (undisturbed breaking).thread earlier
        simp [asking] at free
      exact of_calm calm request (timely.asked control (List.mem_of_getElem? earlier) request asking)
  · exact prompt_advance step.advanced running timely.prompt

/-- In every run in which the connection is never lost while a thread holds a request, no snapshot
of an earlier connection is reported. -/
theorem snapshots_of_their_connection (threads : Nat) (config : Config Number)
    (run : (diagnostics arithmetic).machine.Run Undisturbed (initial threads) config) :
    Prompt config.shared.log ∧
      ∀ request, config.shared.pendingStats = some request → request.Of config.shared.log := by
  have timely : Timely config := run.invariant (timely_initial threads) timely_step
  exact ⟨timely.prompt, timely.pending⟩

/-- A reconnect between two polls leaves the request of the first behind. -/
theorem snapshot_after_reconnect :
    ∃ config : Config Int, (diagnostics intArithmetic).machine.Run Undisturbed (initial 2) config ∧
      breaks config.shared.log = 1 ∧ (current config.shared.log).length = 1 ∧ Prompt config.shared.log := by
  obtain ⟨config, run, broken, applied⟩ := Machine.Run.exists_of_exec (diagnostics intArithmetic).machine
    Undisturbed (initial 2)
    (joinOnce 0 ++ pollOnce 1 [] ++ [(0, .call .markReconnecting), (0, .peers 0), (0, .proceed)] ++ joinOnce 0 ++
      pollOnce 1 [] ++ pollOnce 1 [.stats (statsAt 1000 500), .proceed])
    (fun config => breaks config.shared.log = 1 ∧ (current config.shared.log).length = 1) (by decide +kernel)
  exact ⟨config, run, broken, applied, (snapshots_of_their_connection 2 config run).1⟩

/-- A reconnect while a thread holds the answer is not noticed. -/
theorem snapshot_of_lost_connection :
    ∃ config : Config Int, (diagnostics intArithmetic).machine.Reaches (initial 2) config ∧
      ¬ Prompt config.shared.log := by
  obtain ⟨config, run, stale⟩ := Machine.Reaches.exists_of_exec (diagnostics intArithmetic).machine (initial 2)
    (joinOnce 0 ++ pollOnce 1 [] ++
      [(1, .call .pollStats), (1, .ready true), (1, .stats (statsAt 1000 500)), (0, .call .markReconnecting),
        (0, .peers 0), (0, .proceed)] ++ joinOnce 0 ++ [(1, .proceed)])
    (fun config => ∃ entry ∈ config.shared.log.head?, entry = .applied ⟨0⟩ (statsAt 1000 500) ∧
      breaks config.shared.log.tail = 1) (by decide +kernel)
  refine ⟨config, run, ?_⟩
  obtain ⟨entry, first, rfl, broken⟩ := stale
  cases log : config.shared.log with
  | nil => simp [log] at first
  | cons head tail =>
      rw [log] at first broken
      cases first
      intro prompt
      exact absurd (prompt.1.trans broken) (by decide)

end Freshness

end RosPortal.Connection.Diagnostics
