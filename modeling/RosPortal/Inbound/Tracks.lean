import RosPortal.Interleaving.Machine

/-! The inbound tracks of the topic forwarder and its echo suppression: the registration and
the teardown of the tracks, their readers, the samples on their way to the outbound
subscriptions, and the two sections of `isInboundPublication`, while other nodes create
publishers. -/

set_option autoImplicit false

namespace RosPortal.Inbound

open Interleaving

/-- Who publishes through a writer. An inbound track is named by the GID of its publisher. -/
inductive Origin (Gid : Type) where
  | foreign
  | data (publisher : Gid)
  | video (publisher : Gid)
deriving DecidableEq, Repr

def Origin.inbound {Gid : Type} : Origin Gid → Bool
  | .foreign => false
  | .data _ | .video _ => true

/-- A DDS writer: the one of a publisher, or the hidden one that an rmw adds to it. -/
structure Writer (Gid : Type) where
  gid : Gid
  topic : String
  origin : Origin Gid
deriving DecidableEq, Repr

inductive Reader where
  | unstarted
  | looping
  | reading
  | publishing
  | ended
deriving DecidableEq, Repr

/-- What becomes of a read: the stream ends or a frame ends the reader, a frame is skipped
(the room is unavailable, it does not convert, nobody subscribes), or it is published. -/
inductive Outcome where
  | ended
  | skipped
  | converted
deriving DecidableEq, Repr

/-- A track with its reader, whether or not it is still registered. -/
structure Track (Gid : Type) where
  sid : String
  origin : Origin Gid
  stop : Bool := false
  reader : Reader := .unstarted
deriving DecidableEq, Repr

structure InboundDataTrackState (Gid : Type) where
  sid : String
  publisher : Gid
deriving DecidableEq, Repr

structure InboundVideoTrack (Gid : Type) where
  sid : String
  publisher : Gid
  bufferWriterGids : List Gid
deriving DecidableEq, Repr

/-- The local variables of an `onVideoTrackSubscribed` that holds `inbound_video_tracks_mutex_`. -/
inductive Subscribing (Gid : Type) where
  | listed (sid topic : String) (before : List Gid)
  | created (sid topic : String) (before : List Gid) (publisher : Gid)
  | relisted (sid : String) (publisher : Gid) (bufferWriterGids : List Gid)
deriving DecidableEq, Repr

/-- A call of `isInboundPublication` between its two sections, and whether the sample's data
track was registered in the first. -/
structure Call (Gid : Type) where
  writer : Writer Gid
  registered : Bool
deriving DecidableEq, Repr

/-- A call that has returned, and whether the sample's track was registered in the section
that searches the tracks of its kind. -/
structure Decision (Gid : Type) where
  writer : Writer Gid
  registered : Bool
  dropped : Bool
deriving DecidableEq, Repr

/-- The forwarder with all writers there have been, those that the node's graph knows, and the
samples that no outbound subscription has been called with yet. -/
structure State (Gid : Type) where
  writers : List (Writer Gid) := []
  graph : List (Writer Gid) := []
  tracks : List (Track Gid) := []
  inboundDataTrackStates : List (InboundDataTrackState Gid) := []
  inboundVideoTracks : List (InboundVideoTrack Gid) := []
  subscribing : Option (Subscribing Gid) := none
  queue : List (Writer Gid) := []
  calls : List (Call Gid) := []
  decisions : List (Decision Gid) := []

inductive Label (Gid : Type) where
  | createPublisherElsewhere (gid : Gid) (topic : String)
  | publishElsewhere (gid : Gid)
  | discover (gid : Gid)
  | forget (gid : Gid)
  | onDataTrackPublished (sid topic : String) (gid : Gid)
  | startReader (index : Nat) (succeeded : Bool)
  | onDataTrackUnpublished (sid : String)
  | listPublishers (sid topic : String)
  | createPublisher (gid : Gid) (hidden : Option Gid)
  | relistPublishers
  | register (started : Bool)
  | abandon
  | onVideoTrackUnsubscribed (sid : String)
  | stop (index : Nat)
  | checkStop (index : Nat)
  | read (index : Nat) (outcome : Outcome)
  | publish (index : Nat) (gid : Gid)
  | searchDataTracks (index : Nat)
  | searchVideoTracks (index : Nat)

def kRmwCpuBufferTopicSuffix : String := "/_buf_cpu"

section Functions

variable {Gid : Type} [DecidableEq Gid]

def newEndpointGids (before after : List Gid) : List Gid :=
  after.filter fun gid => gid ∉ before

def InboundVideoTrack.ownsPublisher (track : InboundVideoTrack Gid) (gid : Gid) : Bool :=
  track.publisher = gid || track.bufferWriterGids.contains gid

namespace State

variable (state : State Gid)

/-- `get_publishers_info_by_topic`, with the GIDs only. -/
def publishersByTopic (topic : String) : List Gid :=
  (state.graph.filter fun writer => writer.topic = topic).map Writer.gid

def unused (gid : Gid) : Bool := state.writers.all fun writer => writer.gid ≠ gid

def findWriter (gid : Gid) : Option (Writer Gid) := state.writers.find? fun writer => writer.gid = gid

/-- The first section of `isInboundPublication`. -/
def fromDataTrack (gid : Gid) : Bool :=
  state.inboundDataTrackStates.any fun entry => entry.publisher = gid

/-- The second section of `isInboundPublication`. -/
def fromVideoTrack (gid : Gid) : Bool :=
  state.inboundVideoTracks.any fun track => track.ownsPublisher gid

def dataTrackRegistered (origin : Origin Gid) : Bool :=
  state.inboundDataTrackStates.any fun entry => origin = .data entry.publisher

def videoTrackRegistered (origin : Origin Gid) : Bool :=
  state.inboundVideoTracks.any fun track => origin = .video track.publisher

def setTrack (index : Nat) (track : Track Gid) : State Gid :=
  { state with tracks := state.tracks.set index track }

def eraseDataTrack (sid : String) : State Gid :=
  { state with
    inboundDataTrackStates := state.inboundDataTrackStates.filter fun entry => entry.sid ≠ sid }

def createPublisherElsewhere? (gid : Gid) (topic : String) : Option (State Gid) :=
  if state.unused gid then
    some { state with writers := [⟨gid, topic, .foreign⟩] ++ state.writers }
  else none

def publishElsewhere? (gid : Gid) : Option (State Gid) :=
  match state.findWriter gid with
  | some writer => if writer.origin = .foreign then some { state with queue := state.queue ++ [writer] } else none
  | none => none

def discover? (gid : Gid) : Option (State Gid) :=
  (state.findWriter gid).map fun writer => { state with graph := state.graph ++ [writer] }

def forget (gid : Gid) : State Gid :=
  { state with graph := state.graph.filter fun writer => writer.gid ≠ gid }

/-- `onDataTrackPublished` for a track that is accepted, up to the registration. A track whose
SID is registered already is left alone; a failure on the way leaves nothing. -/
def onDataTrackPublished? (sid topic : String) (gid : Gid) : Option (State Gid) :=
  if state.inboundDataTrackStates.any (fun entry => entry.sid = sid) then some state
  else if state.unused gid then
    some { state with
      writers := [⟨gid, topic, .data gid⟩] ++ state.writers
      tracks := state.tracks ++ [{ sid, origin := .data gid }]
      inboundDataTrackStates := state.inboundDataTrackStates ++ [⟨sid, gid⟩] }
  else none

/-- The rest of `onDataTrackPublished`: the reader thread is created, or the entry is erased. -/
def startReader? (index : Nat) (succeeded : Bool) : Option (State Gid) :=
  match state.tracks[index]? with
  | some track =>
      if track.reader ≠ .unstarted then none
      else if succeeded then some (state.setTrack index { track with reader := .looping })
      else some ((state.setTrack index { track with stop := true, reader := .ended }).eraseDataTrack track.sid)
  | none => none

/-- The first list of the publishers of the buffer topic, under the mutex. -/
def listPublishers? (sid topic : String) : Option (State Gid) :=
  if state.subscribing = none then
    if state.inboundVideoTracks.any (fun track => track.sid = sid) then some state
    else some { state with
      subscribing := some (.listed sid topic (state.publishersByTopic (topic ++ kRmwCpuBufferTopicSuffix))) }
  else none

/-- `create_publisher`, which may add a hidden writer. -/
def createPublisher? (gid : Gid) (hidden : Option Gid) : Option (State Gid) :=
  match state.subscribing with
  | some (.listed sid topic before) =>
      if state.unused gid && hidden.all (fun other => state.unused other && decide (other ≠ gid)) then
        some { state with
          writers := ⟨gid, topic, .video gid⟩ ::
            hidden.toList.map (fun other => ⟨other, topic ++ kRmwCpuBufferTopicSuffix, .video gid⟩) ++
            state.writers
          subscribing := some (.created sid topic before gid) }
      else none
  | _ => none

/-- The second list, and the writers that are new in it. -/
def relistPublishers? : Option (State Gid) :=
  match state.subscribing with
  | some (.created sid topic before publisher) =>
      let after := state.publishersByTopic (topic ++ kRmwCpuBufferTopicSuffix)
      some { state with subscribing := some (.relisted sid publisher (newEndpointGids before after)) }
  | _ => none

/-- The track is registered and its reader started; if that fails it is erased again before
the mutex is released. -/
def register? (started : Bool) : Option (State Gid) :=
  match state.subscribing with
  | some (.relisted sid publisher bufferWriterGids) =>
      if started then
        some { state with
          tracks := state.tracks ++ [{ sid, origin := .video publisher, reader := .looping }]
          inboundVideoTracks := state.inboundVideoTracks ++ [⟨sid, publisher, bufferWriterGids⟩]
          subscribing := none }
      else some { state with subscribing := none }
  | _ => none

/-- An exception or a failed subscription ends `onVideoTrackSubscribed` early. -/
def abandon? : Option (State Gid) :=
  if state.subscribing = none then none else some { state with subscribing := none }

def onVideoTrackUnsubscribed? (sid : String) : Option (State Gid) :=
  if state.subscribing = none then
    some { state with inboundVideoTracks := state.inboundVideoTracks.filter fun track => track.sid ≠ sid }
  else none

/-- The stop flag of a track is set after the track has been taken out of its map. -/
def stop? (index : Nat) : Option (State Gid) :=
  match state.tracks[index]? with
  | some track =>
      if state.dataTrackRegistered track.origin || state.videoTrackRegistered track.origin then none
      else some (state.setTrack index { track with stop := true })
  | none => none

def checkStop? (index : Nat) : Option (State Gid) :=
  match state.tracks[index]? with
  | some track =>
      if track.reader = .looping then
        some (state.setTrack index { track with reader := if track.stop then .ended else .reading })
      else none
  | none => none

def read? (index : Nat) (outcome : Outcome) : Option (State Gid) :=
  match state.tracks[index]? with
  | some track =>
      if track.reader = .reading then
        some (state.setTrack index { track with
          reader := match outcome with
            | .ended => .ended
            | .skipped => .looping
            | .converted => .publishing })
      else none
  | none => none

/-- The sample goes out through one of the writers of the track. -/
def publish? (index : Nat) (gid : Gid) : Option (State Gid) :=
  match state.tracks[index]?, state.findWriter gid with
  | some track, some writer =>
      if track.reader = .publishing ∧ writer.origin = track.origin then
        some { state.setTrack index { track with reader := .looping } with queue := state.queue ++ [writer] }
      else none
  | _, _ => none

/-- A sample is delivered and the first section searches the data tracks. -/
def searchDataTracks? (index : Nat) : Option (State Gid) :=
  (state.queue[index]?).map fun writer =>
    let registered := state.dataTrackRegistered writer.origin
    if state.fromDataTrack writer.gid then
      { state with
        queue := state.queue.eraseIdx index
        decisions := ⟨writer, registered, true⟩ :: state.decisions }
    else
      { state with
        queue := state.queue.eraseIdx index
        calls := state.calls ++ [⟨writer, registered⟩] }

/-- The second section searches the video tracks, and the call returns. -/
def searchVideoTracks? (index : Nat) : Option (State Gid) :=
  if state.subscribing = none then
    (state.calls[index]?).map fun call =>
      { state with
        calls := state.calls.eraseIdx index
        decisions :=
          ⟨call.writer, call.registered || state.videoTrackRegistered call.writer.origin,
            state.fromVideoTrack call.writer.gid⟩ :: state.decisions }
  else none

end State

def step? (state : State Gid) : Label Gid → Option (State Gid)
  | .createPublisherElsewhere gid topic => state.createPublisherElsewhere? gid topic
  | .publishElsewhere gid => state.publishElsewhere? gid
  | .discover gid => state.discover? gid
  | .forget gid => some (state.forget gid)
  | .onDataTrackPublished sid topic gid => state.onDataTrackPublished? sid topic gid
  | .startReader index succeeded => state.startReader? index succeeded
  | .onDataTrackUnpublished sid => some (state.eraseDataTrack sid)
  | .listPublishers sid topic => state.listPublishers? sid topic
  | .createPublisher gid hidden => state.createPublisher? gid hidden
  | .relistPublishers => state.relistPublishers?
  | .register started => state.register? started
  | .abandon => state.abandon?
  | .onVideoTrackUnsubscribed sid => state.onVideoTrackUnsubscribed? sid
  | .stop index => state.stop? index
  | .checkStop index => state.checkStop? index
  | .read index outcome => state.read? index outcome
  | .publish index gid => state.publish? index gid
  | .searchDataTracks index => state.searchDataTracks? index
  | .searchVideoTracks index => state.searchVideoTracks? index

def machine (Gid : Type) [DecidableEq Gid] : Machine (State Gid) (Label Gid) where
  step? := step?

end Functions

end RosPortal.Inbound
