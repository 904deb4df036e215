import RosPortal.Connection.Health

/-! The summary that `connection_health` shows of a snapshot of the RTC statistics. Floating
point numbers are a parameter: nothing but their own operations looks at them. -/

set_option autoImplicit false

namespace RosPortal.Connection.Diagnostics

/-- The operations of the source on `double`. `bitrate` is the quotient of `computeBitrate`. -/
structure Arithmetic (Number : Type) where
  secondsToMilliseconds : Number → Number
  exceeds : Number → Number → Bool
  bitrate : UInt64 → Int → Number
  render : Number → String

inductive DtlsTransportState where
  | new
  | connecting
  | connected
  | closed
  | failed
  | unknown
deriving DecidableEq, Repr

def DtlsTransportState.valueToString : DtlsTransportState → String
  | .new => "new"
  | .connecting => "connecting"
  | .connected => "connected"
  | .closed => "closed"
  | .failed => "failed"
  | .unknown => "unknown"

inductive IceTransportState where
  | new
  | checking
  | connected
  | completed
  | disconnected
  | failed
  | closed
  | unknown
deriving DecidableEq, Repr

def IceTransportState.valueToString : IceTransportState → String
  | .new => "new"
  | .checking => "checking"
  | .connected => "connected"
  | .completed => "completed"
  | .disconnected => "disconnected"
  | .failed => "failed"
  | .closed => "closed"
  | .unknown => "unknown"

inductive IceCandidatePairState where
  | frozen
  | waiting
  | inProgress
  | failed
  | succeeded
  | unknown
deriving DecidableEq, Repr

def IceCandidatePairState.valueToString : IceCandidatePairState → String
  | .frozen => "frozen"
  | .waiting => "waiting"
  | .inProgress => "in_progress"
  | .failed => "failed"
  | .succeeded => "succeeded"
  | .unknown => "unknown"

structure TransportStats where
  selectedCandidatePairId : String := ""
  iceState : Option IceTransportState := none
  dtlsState : Option DtlsTransportState := none
deriving DecidableEq, Repr

structure CandidatePairStats (Number : Type) where
  state : Option IceCandidatePairState
  nominated : Bool
  bytesSent : UInt64
  bytesReceived : UInt64
  currentRoundTripTime : Number
  availableOutgoingBitrate : Number
  availableIncomingBitrate : Number
deriving DecidableEq

/-- What is read of an entry of the statistics; of a data channel, whether it is open. -/
inductive RtcStats (Number : Type) where
  | transport (transport : TransportStats)
  | candidatePair (id : String) (timestampMs : Int) (stats : CandidatePairStats Number)
  | inboundRtp (packetsLost : Int) (jitter : Number)
  | remoteInboundRtp (packetsLost : Int) (jitter : Number)
  | dataChannel (isOpen : Bool)
  | other
deriving DecidableEq

structure SessionStats (Number : Type) where
  publisherStats : List (RtcStats Number)
  subscriberStats : List (RtcStats Number)
deriving DecidableEq

structure CandidatePairSnapshot (Number : Type) where
  id : String
  timestampMs : Int
  stats : CandidatePairStats Number
deriving DecidableEq

structure RtcStatsAccumulator (Number : Type) where
  candidatePairs : List (CandidatePairSnapshot Number) := []
  transports : List TransportStats := []
  packetsLost : Int := 0
  maxJitterMs : Option Number := none
  dataChannelsOpen : UInt32 := 0
  dataChannelsTotal : UInt32 := 0

/-- `ConnectionHealthRtcSummary`. -/
structure RtcSummary (Number : Type) where
  statsAvailable : Bool := false
  iceState : Option String := none
  dtlsState : Option String := none
  candidatePairState : Option String := none
  currentRoundTripTimeMs : Option Number := none
  availableOutgoingBitrateBps : Option Number := none
  availableIncomingBitrateBps : Option Number := none
  bytesSent : Option UInt64 := none
  bytesReceived : Option UInt64 := none
  sendBitrateBps : Option Number := none
  receiveBitrateBps : Option Number := none
  packetsLost : Int := 0
  maxJitterMs : Option Number := none
  dataChannelsOpen : UInt32 := 0
  dataChannelsTotal : UInt32 := 0
deriving DecidableEq

/-- `ConnectionHealthRtcTrafficCounters`. -/
structure TrafficCounters where
  candidatePairId : String
  timestampMs : Int
  bytesSent : UInt64
  bytesReceived : UInt64
deriving DecidableEq, Repr

/-- `ConnectionHealthState`. -/
structure HealthState (Number : Type) where
  kind : HealthKind := .disconnected
  roomName : String := ""
  numPeers : Nat := 0
  reconnectCount : Nat := 0
  connectionLossCount : Nat := 0
  rtcSummary : RtcSummary Number := {}
  previousTraffic : Option TrafficCounters := none
deriving DecidableEq

section Summary

variable {Number : Type} (arithmetic : Arithmetic Number)

def CandidatePairStats.totalBytes (stats : CandidatePairStats Number) : UInt64 :=
  stats.bytesSent + stats.bytesReceived

def updateMaxJitter (accumulator : RtcStatsAccumulator Number) (jitterSeconds : Number) :
    RtcStatsAccumulator Number :=
  let jitterMs := arithmetic.secondsToMilliseconds jitterSeconds
  if accumulator.maxJitterMs.all (arithmetic.exceeds jitterMs) then
    { accumulator with maxJitterMs := some jitterMs }
  else accumulator

def accumulateRtcStats (accumulator : RtcStatsAccumulator Number) :
    RtcStats Number → RtcStatsAccumulator Number
  | .transport transport => { accumulator with transports := accumulator.transports ++ [transport] }
  | .candidatePair id timestampMs stats =>
      { accumulator with candidatePairs := accumulator.candidatePairs ++ [⟨id, timestampMs, stats⟩] }
  | .inboundRtp packetsLost jitter | .remoteInboundRtp packetsLost jitter =>
      updateMaxJitter arithmetic
        { accumulator with packetsLost := accumulator.packetsLost + packetsLost } jitter
  | .dataChannel isOpen =>
      { accumulator with
        dataChannelsTotal := accumulator.dataChannelsTotal + 1
        dataChannelsOpen :=
          if isOpen then accumulator.dataChannelsOpen + 1 else accumulator.dataChannelsOpen }
  | .other => accumulator

def summarizeRawStats (stats : SessionStats Number) : RtcStatsAccumulator Number :=
  (stats.publisherStats ++ stats.subscriberStats).foldl (accumulateRtcStats arithmetic) {}

def selectTransport (accumulator : RtcStatsAccumulator Number) : Option TransportStats :=
  match accumulator.transports.find? fun transport => transport.selectedCandidatePairId ≠ "" with
  | some transport => some transport
  | none => accumulator.transports.head?

def findCandidatePairById (accumulator : RtcStatsAccumulator Number) (id : String) :
    Option (CandidatePairSnapshot Number) :=
  accumulator.candidatePairs.find? fun candidatePair => candidatePair.id = id

def betterPair (best : Option (CandidatePairSnapshot Number))
    (candidatePair : CandidatePairSnapshot Number) : Option (CandidatePairSnapshot Number) :=
  if !candidatePair.stats.nominated || candidatePair.stats.state ≠ some .succeeded then best
  else if best.all fun best => decide (best.stats.totalBytes < candidatePair.stats.totalBytes) then
    some candidatePair
  else best

def selectCandidatePair (accumulator : RtcStatsAccumulator Number) (transport : Option TransportStats) :
    Option (CandidatePairSnapshot Number) :=
  let selected := transport.bind fun transport =>
    if transport.selectedCandidatePairId ≠ "" then
      findCandidatePairById accumulator transport.selectedCandidatePairId
    else none
  match selected with
  | some pair => some pair
  | none => accumulator.candidatePairs.foldl betterPair none

def computeBitrate (previousBytes currentBytes : UInt64) (elapsedMs : Int) : Option Number :=
  if elapsedMs ≤ 0 ∨ currentBytes < previousBytes then none
  else some (arithmetic.bitrate (currentBytes - previousBytes) elapsedMs)

def updateBitrates (state : HealthState Number) (candidatePair : CandidatePairSnapshot Number) :
    HealthState Number :=
  match state.rtcSummary.bytesSent, state.rtcSummary.bytesReceived with
  | some bytesSent, some bytesReceived =>
      let counters : TrafficCounters :=
        ⟨candidatePair.id, candidatePair.timestampMs, bytesSent, bytesReceived⟩
      match state.previousTraffic with
      | none => { state with previousTraffic := some counters }
      | some previous =>
          if previous.candidatePairId = candidatePair.id then
            let elapsedMs := candidatePair.timestampMs - previous.timestampMs
            { state with
              rtcSummary := { state.rtcSummary with
                sendBitrateBps := computeBitrate arithmetic previous.bytesSent bytesSent elapsedMs
                receiveBitrateBps :=
                  computeBitrate arithmetic previous.bytesReceived bytesReceived elapsedMs }
              previousTraffic := some counters }
          else { state with previousTraffic := some counters }
  | _, _ => { state with previousTraffic := none }

def makeRtcSummary (state : HealthState Number) (stats : SessionStats Number) : HealthState Number :=
  let accumulator := summarizeRawStats arithmetic stats
  let transport := selectTransport accumulator
  let summary : RtcSummary Number :=
    { statsAvailable := true
      packetsLost := accumulator.packetsLost
      maxJitterMs := accumulator.maxJitterMs
      dataChannelsOpen := accumulator.dataChannelsOpen
      dataChannelsTotal := accumulator.dataChannelsTotal
      iceState := transport.bind fun transport => transport.iceState.map (·.valueToString)
      dtlsState := transport.bind fun transport => transport.dtlsState.map (·.valueToString) }
  match selectCandidatePair accumulator transport with
  | none => { state with rtcSummary := summary, previousTraffic := none }
  | some candidatePair =>
      updateBitrates arithmetic
        { state with
          rtcSummary := { summary with
            candidatePairState := candidatePair.stats.state.map (·.valueToString)
            currentRoundTripTimeMs :=
              some (arithmetic.secondsToMilliseconds candidatePair.stats.currentRoundTripTime)
            availableOutgoingBitrateBps := some candidatePair.stats.availableOutgoingBitrate
            availableIncomingBitrateBps := some candidatePair.stats.availableIncomingBitrate
            bytesSent := some candidatePair.stats.bytesSent
            bytesReceived := some candidatePair.stats.bytesReceived } }
        candidatePair

/-- `updateConnectionHealthStatsSnapshot`. -/
abbrev updateStatsSnapshot (state : HealthState Number) (stats : SessionStats Number) : HealthState Number :=
  makeRtcSummary arithmetic state stats

def clearRtcSummary (state : HealthState Number) : HealthState Number :=
  { state with rtcSummary := {}, previousTraffic := none }

end Summary

section Status

/-- The levels of `diagnostic_msgs::msg::DiagnosticStatus`. -/
inductive Level where
  | ok
  | warn
  | error
deriving DecidableEq, Repr

structure DiagnosticStatus where
  level : Level
  message : String
  values : List (String × String)
deriving DecidableEq, Repr

variable {Number : Type} (arithmetic : Arithmetic Number)

def valueToString (value : Bool) : String := if value then "true" else "false"

def stateToString : HealthKind → String
  | .connected => "connected"
  | .reconnecting => "reconnecting"
  | .disconnected => "disconnected"

def optionalField (key : String) (value : Option String) : String × String := (key, value.getD "unset")

def rtcSummaryFields (summary : RtcSummary Number) : List (String × String) :=
  [("rtc.stats_available", valueToString summary.statsAvailable),
    optionalField "rtc.transport.ice_state" summary.iceState,
    optionalField "rtc.transport.dtls_state" summary.dtlsState,
    optionalField "rtc.transport.candidate_pair_state" summary.candidatePairState,
    optionalField "rtc.transport.current_round_trip_time_ms"
      (summary.currentRoundTripTimeMs.map arithmetic.render),
    optionalField "rtc.transport.available_outgoing_bitrate_bps"
      (summary.availableOutgoingBitrateBps.map arithmetic.render),
    optionalField "rtc.transport.available_incoming_bitrate_bps"
      (summary.availableIncomingBitrateBps.map arithmetic.render),
    optionalField "rtc.traffic.bytes_sent" (summary.bytesSent.map toString),
    optionalField "rtc.traffic.bytes_received" (summary.bytesReceived.map toString),
    optionalField "rtc.traffic.send_bitrate_bps" (summary.sendBitrateBps.map arithmetic.render),
    optionalField "rtc.traffic.receive_bitrate_bps" (summary.receiveBitrateBps.map arithmetic.render),
    ("rtc.traffic.packets_lost", toString summary.packetsLost),
    optionalField "rtc.traffic.max_jitter_ms" (summary.maxJitterMs.map arithmetic.render),
    ("rtc.data_channels.open", toString summary.dataChannelsOpen),
    ("rtc.data_channels.total", toString summary.dataChannelsTotal)]

def statusSummary : HealthKind → Level × String
  | .connected => (.ok, "Connected to LiveKit room")
  | .reconnecting => (.warn, "Reconnecting to LiveKit room")
  | .disconnected => (.error, "Disconnected from LiveKit room")

/-- `populateConnectionHealthStatus`. -/
def populateStatus (state : HealthState Number) : DiagnosticStatus where
  level := (statusSummary state.kind).1
  message := (statusSummary state.kind).2
  values :=
    [("state", stateToString state.kind), ("num_peers", toString state.numPeers),
      ("reconnect_count", toString state.reconnectCount),
      ("connection_loss_count", toString state.connectionLossCount), ("room_name", state.roomName)] ++
      if state.kind = .connected then rtcSummaryFields arithmetic state.rtcSummary else []

end Status

end RosPortal.Connection.Diagnostics
