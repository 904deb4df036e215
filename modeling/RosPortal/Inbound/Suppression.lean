import Mathlib.Data.List.Basic
import RosPortal.Inbound.Tracks

/-! Which delivered samples `isInboundPublication` drops. A sample is recognised by the
tracks that are registered when it is delivered, and a video track claims every writer that
appeared on its buffer topic while its publisher was created. -/

set_option autoImplicit false

namespace RosPortal.Inbound

open Interleaving

variable {Gid : Type}

/-- What a video track claims are the writers of its publisher. -/
structure Owns (writers : List (Writer Gid)) (publisher : Gid) (bufferWriterGids : List Gid) : Prop where
  named : ∃ writer ∈ writers, writer.gid = publisher ∧ writer.origin = .video publisher
  sound : ∀ gid ∈ bufferWriterGids, ∃ writer ∈ writers, writer.gid = gid ∧ writer.origin = .video publisher
  complete : ∀ writer ∈ writers, writer.origin = .video publisher →
    writer.gid = publisher ∨ writer.gid ∈ bufferWriterGids

/-- New writers of other publishers change nothing about what a track owns. -/
theorem Owns.grown {writers later : List (Writer Gid)} {publisher : Gid} {bufferWriterGids : List Gid}
    (owns : Owns writers publisher bufferWriterGids) (grown : writers ⊆ later)
    (others : ∀ writer ∈ later, writer.origin = .video publisher → writer ∈ writers) :
    Owns later publisher bufferWriterGids where
  named := by
    obtain ⟨writer, known, facts⟩ := owns.named
    exact ⟨writer, grown known, facts⟩
  sound := by
    intro gid listed
    obtain ⟨writer, known, facts⟩ := owns.sound gid listed
    exact ⟨writer, grown known, facts⟩
  complete := fun writer known origin => owns.complete writer (others writer known origin) origin

/-- Writers are created whose GIDs are new, those of a video track together with its publisher. -/
structure Fresh (writers added : List (Writer Gid)) : Prop where
  new : ∀ writer ∈ added, ∀ old ∈ writers, old.gid ≠ writer.gid
  apart : ∀ first ∈ added, ∀ second ∈ added, first.gid = second.gid → first = second
  data : ∀ writer ∈ added, ∀ publisher, writer.origin = .data publisher → writer.gid = publisher
  video : ∀ writer ∈ added, ∀ publisher, writer.origin = .video publisher →
    ∃ own ∈ added, own.gid = publisher

theorem Owns.added {writers added : List (Writer Gid)} {publisher : Gid} {bufferWriterGids : List Gid}
    (owns : Owns writers publisher bufferWriterGids) (fresh : Fresh writers added) :
    Owns (added ++ writers) publisher bufferWriterGids := by
  refine owns.grown (List.subset_append_right _ _) ?_
  intro writer known origin
  rcases List.mem_append.mp known with new | old
  · obtain ⟨own, ownNew, ownGid⟩ := fresh.video writer new publisher origin
    obtain ⟨named, namedOld, namedGid, _⟩ := owns.named
    exact absurd (namedGid.trans ownGid.symm) (fresh.new own ownNew named namedOld)
  · exact old

/-- Where the subscription in progress is. -/
def Subscribing.Grounded (writers : List (Writer Gid)) : Subscribing Gid → Prop
  | .listed _ _ _ => True
  | .created _ _ _ publisher => ∃ writer ∈ writers, writer.gid = publisher ∧ writer.origin = .video publisher
  | .relisted _ publisher bufferWriterGids => Owns writers publisher bufferWriterGids

/-- GIDs are unique, and the maps name the writers of their own tracks. -/
structure Grounded (state : State Gid) : Prop where
  unique : ∀ first ∈ state.writers, ∀ second ∈ state.writers, first.gid = second.gid → first = second
  data : ∀ writer ∈ state.writers, ∀ publisher, writer.origin = .data publisher → writer.gid = publisher
  graph : state.graph ⊆ state.writers
  dataTracks : ∀ entry ∈ state.inboundDataTrackStates,
    ∃ writer ∈ state.writers, writer.gid = entry.publisher ∧ writer.origin = .data entry.publisher
  videoTracks : ∀ track ∈ state.inboundVideoTracks,
    Owns state.writers track.publisher track.bufferWriterGids
  subscribing : ∀ call, state.subscribing = some call → call.Grounded state.writers
  queue : state.queue ⊆ state.writers
  calls : ∀ call ∈ state.calls, call.writer ∈ state.writers ∧ call.registered = false
  /-- A call drops the samples of registered tracks. -/
  decisions : ∀ decision ∈ state.decisions, decision.dropped = decision.registered ∧
    (decision.registered = true → decision.writer.origin.inbound = true)

theorem Grounded.added {state : State Gid} (grounded : Grounded state) {added : List (Writer Gid)}
    (fresh : Fresh state.writers added) : Grounded { state with writers := added ++ state.writers } where
  unique := by
    intro first firstKnown second secondKnown same
    rcases List.mem_append.mp firstKnown with firstNew | firstOld
    · rcases List.mem_append.mp secondKnown with secondNew | secondOld
      · exact fresh.apart first firstNew second secondNew same
      · exact absurd same.symm (fresh.new first firstNew second secondOld)
    · rcases List.mem_append.mp secondKnown with secondNew | secondOld
      · exact absurd same (fresh.new second secondNew first firstOld)
      · exact grounded.unique first firstOld second secondOld same
  data := by
    intro writer known
    rcases List.mem_append.mp known with new | old
    · exact fresh.data writer new
    · exact grounded.data writer old
  graph := List.Subset.trans grounded.graph (List.subset_append_right _ _)
  dataTracks := by
    intro entry member
    obtain ⟨writer, known, facts⟩ := grounded.dataTracks entry member
    exact ⟨writer, List.mem_append_right _ known, facts⟩
  videoTracks := fun track member => (grounded.videoTracks track member).added fresh
  subscribing := by
    intro call current
    have before := grounded.subscribing call current
    cases call with
    | listed => trivial
    | created =>
        obtain ⟨writer, known, facts⟩ := before
        exact ⟨writer, List.mem_append_right _ known, facts⟩
    | relisted => exact Owns.added before fresh
  queue := List.Subset.trans grounded.queue (List.subset_append_right _ _)
  calls := fun call member =>
    ⟨List.mem_append_right _ (grounded.calls call member).1, (grounded.calls call member).2⟩
  decisions := grounded.decisions

section Frames

variable {state next : State Gid}

theorem Grounded.enqueued (grounded : Grounded state) {writer : Writer Gid} (known : writer ∈ state.writers) :
    Grounded { state with queue := state.queue ++ [writer] } :=
  { grounded with
    queue := List.append_subset.mpr ⟨grounded.queue, List.cons_subset.mpr ⟨known, List.nil_subset _⟩⟩ }

theorem Grounded.setTrack (grounded : Grounded state) (index : Nat) (track : Track Gid) :
    Grounded (state.setTrack index track) :=
  { grounded with }

theorem Grounded.eraseDataTrack (grounded : Grounded state) (sid : String) :
    Grounded (state.eraseDataTrack sid) :=
  { grounded with
    dataTracks := fun entry member => grounded.dataTracks entry (List.mem_filter.mp member).1 }

theorem Grounded.released (grounded : Grounded state) : Grounded { state with subscribing := none } :=
  { grounded with subscribing := fun _ current => by cases current }

theorem Grounded.listPublishers (grounded : Grounded state) {sid topic : String}
    (stepped : state.listPublishers? sid topic = some next) : Grounded next := by
  unfold State.listPublishers? at stepped
  split at stepped
  · split at stepped
    · cases stepped
      exact grounded
    · cases stepped
      refine { grounded with subscribing := ?_ }
      intro call current
      cases current
      trivial
  · cases stepped

theorem Grounded.onVideoTrackUnsubscribed (grounded : Grounded state) {sid : String}
    (stepped : state.onVideoTrackUnsubscribed? sid = some next) : Grounded next := by
  unfold State.onVideoTrackUnsubscribed? at stepped
  split at stepped
  · cases stepped
    exact { grounded with
      videoTracks := fun track member => grounded.videoTracks track (List.mem_filter.mp member).1 }
  · cases stepped

theorem Grounded.startReader (grounded : Grounded state) {index : Nat} {succeeded : Bool}
    (stepped : state.startReader? index succeeded = some next) : Grounded next := by
  unfold State.startReader? at stepped
  split at stepped
  · split at stepped
    · cases stepped
    · split at stepped
      · cases stepped
        exact grounded.setTrack index _
      · cases stepped
        exact (grounded.setTrack index _).eraseDataTrack _
  · cases stepped

theorem Grounded.register (grounded : Grounded state) {started : Bool}
    (stepped : state.register? started = some next) : Grounded next := by
  unfold State.register? at stepped
  split at stepped
  case h_1 sid publisher bufferWriterGids current =>
    split at stepped
    · cases stepped
      refine { grounded.released with videoTracks := ?_ }
      intro track member
      rcases List.mem_append.mp member with old | new
      · exact grounded.videoTracks track old
      · obtain rfl := List.mem_singleton.mp new
        exact grounded.subscribing _ current
    · cases stepped
      exact grounded.released
  · cases stepped

theorem Grounded.abandon (grounded : Grounded state) (stepped : state.abandon? = some next) :
    Grounded next := by
  unfold State.abandon? at stepped
  split at stepped
  · cases stepped
  · cases stepped
    exact grounded.released

theorem Grounded.checkStop (grounded : Grounded state) {index : Nat}
    (stepped : state.checkStop? index = some next) : Grounded next := by
  unfold State.checkStop? at stepped
  split at stepped
  · split at stepped
    · cases stepped
      exact grounded.setTrack index _
    · cases stepped
  · cases stepped

theorem Grounded.read (grounded : Grounded state) {index : Nat} {outcome : Outcome}
    (stepped : state.read? index outcome = some next) : Grounded next := by
  unfold State.read? at stepped
  split at stepped
  · split at stepped
    · cases stepped
      exact grounded.setTrack index _
    · cases stepped
  · cases stepped

end Frames

variable [DecidableEq Gid]

def State.hiddenWriterGids (state : State Gid) (publisher : Gid) : List Gid :=
  (state.writers.filter fun writer => writer.origin = .video publisher ∧ writer.gid ≠ publisher).map Writer.gid

/-- The second list of a subscription tells the hidden writer of the new publisher apart: it is
what is new on the buffer topic, and nothing else is. -/
def State.separates (state : State Gid) : Label Gid → Bool
  | .relistPublishers =>
      match state.subscribing with
      | some (.created _ topic before publisher) =>
          let appeared :=
            newEndpointGids before (state.publishersByTopic (topic ++ kRmwCpuBufferTopicSuffix))
          let hidden := state.hiddenWriterGids publisher
          (appeared.all fun gid => hidden.contains gid) && hidden.all fun gid => appeared.contains gid
      | _ => true
  | _ => true

/-- Every sample was dropped if and only if an inbound track published it. -/
def State.Exact (state : State Gid) : Prop :=
  ∀ decision ∈ state.decisions, decision.dropped = decision.writer.origin.inbound

/-- The track of every inbound sample was still registered when its map was searched. -/
def State.Timely (state : State Gid) : Prop :=
  ∀ decision ∈ state.decisions, decision.writer.origin.inbound = true → decision.registered = true

section Lookups

variable {state : State Gid} (grounded : Grounded state) {writer : Writer Gid}

include grounded

theorem Grounded.fromDataTrack (known : writer ∈ state.writers) :
    state.fromDataTrack writer.gid = state.dataTrackRegistered writer.origin := by
  rw [Bool.eq_iff_iff]
  simp only [State.fromDataTrack, State.dataTrackRegistered, List.any_eq_true, decide_eq_true_eq]
  constructor
  · intro registered
    obtain ⟨entry, member, same⟩ := registered
    obtain ⟨own, ownKnown, ownGid, ownOrigin⟩ := grounded.dataTracks entry member
    obtain rfl := grounded.unique own ownKnown writer known (ownGid.trans same)
    exact ⟨entry, member, ownOrigin⟩
  · intro registered
    obtain ⟨entry, member, origin⟩ := registered
    exact ⟨entry, member, (grounded.data writer known _ origin).symm⟩

theorem Grounded.fromVideoTrack (known : writer ∈ state.writers) :
    state.fromVideoTrack writer.gid = state.videoTrackRegistered writer.origin := by
  rw [Bool.eq_iff_iff]
  simp only [State.fromVideoTrack, State.videoTrackRegistered, InboundVideoTrack.ownsPublisher,
    List.any_eq_true, Bool.or_eq_true, decide_eq_true_eq, List.contains_iff_mem]
  constructor
  · intro owned
    obtain ⟨track, member, claimed⟩ := owned
    have owns := grounded.videoTracks track member
    rcases claimed with same | listed
    · obtain ⟨own, ownKnown, ownGid, ownOrigin⟩ := owns.named
      obtain rfl := grounded.unique own ownKnown writer known (ownGid.trans same)
      exact ⟨track, member, ownOrigin⟩
    · obtain ⟨own, ownKnown, ownGid, ownOrigin⟩ := owns.sound _ listed
      obtain rfl := grounded.unique own ownKnown writer known ownGid
      exact ⟨track, member, ownOrigin⟩
  · intro owned
    obtain ⟨track, member, origin⟩ := owned
    exact ⟨track, member, ((grounded.videoTracks track member).complete writer known origin).imp_left Eq.symm⟩

end Lookups

theorem State.inbound_of_dataTrackRegistered {state : State Gid} {origin : Origin Gid}
    (registered : state.dataTrackRegistered origin = true) : origin.inbound = true := by
  obtain ⟨entry, _, same⟩ := List.any_eq_true.mp registered
  rw [of_decide_eq_true same, Origin.inbound]

theorem State.inbound_of_videoTrackRegistered {state : State Gid} {origin : Origin Gid}
    (registered : state.videoTrackRegistered origin = true) : origin.inbound = true := by
  obtain ⟨track, _, same⟩ := List.any_eq_true.mp registered
  rw [of_decide_eq_true same, Origin.inbound]

section Writers

variable {state : State Gid}

theorem State.mem_of_findWriter {gid : Gid} {writer : Writer Gid} (found : state.findWriter gid = some writer) :
    writer ∈ state.writers ∧ writer.gid = gid :=
  ⟨List.mem_of_find?_eq_some found, by simpa using List.find?_some found⟩

theorem State.unused_iff {gid : Gid} : state.unused gid = true ↔ ∀ writer ∈ state.writers, writer.gid ≠ gid := by
  simp [State.unused]

theorem State.mem_hiddenWriterGids {publisher gid : Gid} :
    gid ∈ state.hiddenWriterGids publisher ↔
      ∃ writer ∈ state.writers, writer.gid = gid ∧ writer.origin = .video publisher ∧ gid ≠ publisher := by
  simp only [State.hiddenWriterGids, List.mem_map, List.mem_filter, decide_eq_true_eq]
  constructor
  · intro published
    obtain ⟨writer, ⟨known, origin, other⟩, rfl⟩ := published
    exact ⟨writer, known, rfl, origin, other⟩
  · intro published
    obtain ⟨writer, known, rfl, origin, other⟩ := published
    exact ⟨writer, ⟨known, origin, other⟩, rfl⟩

theorem fresh_foreign {gid : Gid} (topic : String) (unused : state.unused gid = true) :
    Fresh state.writers [⟨gid, topic, .foreign⟩] := by
  constructor <;> simp_all [State.unused_iff]

theorem fresh_data {gid : Gid} (topic : String) (unused : state.unused gid = true) :
    Fresh state.writers [⟨gid, topic, .data gid⟩] := by
  constructor <;> simp_all [State.unused_iff]

theorem fresh_video {gid : Gid} {hidden : Option Gid} (topic bufferTopic : String)
    (unused : state.unused gid = true)
    (hiddenUnused : hidden.all (fun other => state.unused other && decide (other ≠ gid)) = true) :
    Fresh state.writers (⟨gid, topic, .video gid⟩ ::
      hidden.toList.map fun other => ⟨other, bufferTopic, .video gid⟩) := by
  cases hidden with
  | none => constructor <;> simp_all [State.unused_iff]
  | some other =>
      simp only [Option.all_some, Bool.and_eq_true, decide_eq_true_eq, State.unused_iff] at hiddenUnused
      obtain ⟨otherUnused, different⟩ := hiddenUnused
      constructor
      · simpa using And.intro (State.unused_iff.mp unused) otherUnused
      · simp [different, different.symm]
      · simp
      · simp

end Writers

section Steps

variable {state next : State Gid}

theorem Grounded.createPublisherElsewhere (grounded : Grounded state) {gid : Gid} {topic : String}
    (stepped : state.createPublisherElsewhere? gid topic = some next) : Grounded next := by
  unfold State.createPublisherElsewhere? at stepped
  split at stepped
  · cases stepped
    exact grounded.added (fresh_foreign topic ‹_›)
  · cases stepped

theorem Grounded.publishElsewhere (grounded : Grounded state) {gid : Gid}
    (stepped : state.publishElsewhere? gid = some next) : Grounded next := by
  unfold State.publishElsewhere? at stepped
  split at stepped
  · split at stepped
    · cases stepped
      exact grounded.enqueued (State.mem_of_findWriter ‹_›).1
    · cases stepped
  · cases stepped

theorem Grounded.discover (grounded : Grounded state) {gid : Gid}
    (stepped : state.discover? gid = some next) : Grounded next := by
  obtain ⟨writer, found, rfl⟩ := Option.map_eq_some_iff.mp stepped
  have known := (State.mem_of_findWriter found).1
  exact { grounded with
    graph := List.append_subset.mpr ⟨grounded.graph, List.cons_subset.mpr ⟨known, List.nil_subset _⟩⟩ }

theorem Grounded.forget (grounded : Grounded state) (gid : Gid) : Grounded (state.forget gid) :=
  { grounded with graph := fun _ member => grounded.graph (List.mem_filter.mp member).1 }

theorem Grounded.onDataTrackPublished (grounded : Grounded state) {sid topic : String} {gid : Gid}
    (stepped : state.onDataTrackPublished? sid topic gid = some next) : Grounded next := by
  unfold State.onDataTrackPublished? at stepped
  split at stepped
  · cases stepped
    exact grounded
  · split at stepped
    · cases stepped
      refine { grounded.added (fresh_data topic ‹_›) with dataTracks := ?_ }
      intro entry member
      rcases List.mem_append.mp member with old | new
      · obtain ⟨writer, known, facts⟩ := grounded.dataTracks entry old
        exact ⟨writer, List.mem_append_right _ known, facts⟩
      · obtain rfl := List.mem_singleton.mp new
        exact ⟨_, List.mem_append_left _ List.mem_cons_self, rfl, rfl⟩
    · cases stepped

theorem Grounded.createPublisher (grounded : Grounded state) {gid : Gid} {hidden : Option Gid}
    (stepped : state.createPublisher? gid hidden = some next) : Grounded next := by
  unfold State.createPublisher? at stepped
  split at stepped
  · split at stepped
    case isTrue unused =>
      cases stepped
      obtain ⟨unused, hiddenUnused⟩ := Bool.and_eq_true_iff.mp unused
      refine { grounded.added (fresh_video _ _ unused hiddenUnused) with subscribing := ?_ }
      intro call current
      cases current
      exact ⟨_, List.mem_append_left _ List.mem_cons_self, rfl, rfl⟩
    · cases stepped
  · cases stepped

theorem Grounded.relistPublishers (grounded : Grounded state)
    (separates : state.separates .relistPublishers = true)
    (stepped : state.relistPublishers? = some next) : Grounded next := by
  unfold State.relistPublishers? at stepped
  split at stepped
  case h_1 sid topic before publisher current =>
    cases stepped
    simp only [State.separates, current, Bool.and_eq_true, List.all_eq_true, List.contains_iff_mem] at separates
    obtain ⟨onlyHidden, allHidden⟩ := separates
    refine { grounded with subscribing := ?_ }
    intro call later
    cases later
    constructor
    · exact grounded.subscribing _ current
    · intro gid appeared
      obtain ⟨writer, known, same, origin, _⟩ := State.mem_hiddenWriterGids.mp (onlyHidden gid appeared)
      exact ⟨writer, known, same, origin⟩
    · intro writer known origin
      by_cases own : writer.gid = publisher
      · exact .inl own
      · exact .inr (allHidden _ (State.mem_hiddenWriterGids.mpr ⟨writer, known, rfl, origin, own⟩))
  · cases stepped

theorem Grounded.stop (grounded : Grounded state) {index : Nat}
    (stepped : state.stop? index = some next) : Grounded next := by
  unfold State.stop? at stepped
  split at stepped
  · split at stepped
    · cases stepped
    · cases stepped
      exact grounded.setTrack index _
  · cases stepped

theorem Grounded.publish (grounded : Grounded state) {index : Nat} {gid : Gid}
    (stepped : state.publish? index gid = some next) : Grounded next := by
  unfold State.publish? at stepped
  split at stepped
  · split at stepped
    · cases stepped
      exact (grounded.setTrack index _).enqueued (State.mem_of_findWriter ‹_›).1
    · cases stepped
  · cases stepped

theorem Grounded.searchDataTracks (grounded : Grounded state) {index : Nat}
    (stepped : state.searchDataTracks? index = some next) : Grounded next := by
  obtain ⟨writer, delivered, result⟩ := Option.map_eq_some_iff.mp stepped
  have known := grounded.queue (List.mem_of_getElem? delivered)
  have remaining : state.queue.eraseIdx index ⊆ state.writers :=
    fun other member => grounded.queue (List.mem_of_mem_eraseIdx member)
  rw [grounded.fromDataTrack known] at result
  split at result
  case isTrue registered =>
    subst result
    refine { grounded with queue := remaining, decisions := ?_ }
    intro decision member
    rcases List.mem_cons.mp member with rfl | earlier
    · exact ⟨registered.symm, fun _ => State.inbound_of_dataTrackRegistered registered⟩
    · exact grounded.decisions decision earlier
  case isFalse absent =>
    subst result
    refine { grounded with queue := remaining, calls := ?_ }
    intro call member
    rcases List.mem_append.mp member with earlier | new
    · exact grounded.calls call earlier
    · obtain rfl := List.mem_singleton.mp new
      exact ⟨known, Bool.eq_false_iff.mpr absent⟩

theorem Grounded.searchVideoTracks (grounded : Grounded state) {index : Nat}
    (stepped : state.searchVideoTracks? index = some next) : Grounded next := by
  unfold State.searchVideoTracks? at stepped
  split at stepped
  · obtain ⟨call, running, rfl⟩ := Option.map_eq_some_iff.mp stepped
    obtain ⟨known, unregistered⟩ := grounded.calls call (List.mem_of_getElem? running)
    refine { grounded with
      calls := fun other member => grounded.calls other (List.mem_of_mem_eraseIdx member)
      decisions := ?_ }
    intro decision member
    rcases List.mem_cons.mp member with rfl | earlier
    · rw [unregistered, grounded.fromVideoTrack known, Bool.false_or]
      exact ⟨rfl, State.inbound_of_videoTrackRegistered⟩
    · exact grounded.decisions decision earlier
  · cases stepped

theorem Grounded.step (grounded : Grounded state) {label : Label Gid} (separates : state.separates label = true)
    (stepped : (machine Gid).step? state label = some next) : Grounded next := by
  cases label with
  | createPublisherElsewhere => exact grounded.createPublisherElsewhere stepped
  | publishElsewhere => exact grounded.publishElsewhere stepped
  | discover => exact grounded.discover stepped
  | forget gid =>
      cases stepped
      exact grounded.forget gid
  | onDataTrackPublished => exact grounded.onDataTrackPublished stepped
  | startReader => exact grounded.startReader stepped
  | onDataTrackUnpublished sid =>
      cases stepped
      exact grounded.eraseDataTrack sid
  | listPublishers => exact grounded.listPublishers stepped
  | createPublisher => exact grounded.createPublisher stepped
  | relistPublishers => exact grounded.relistPublishers separates stepped
  | register => exact grounded.register stepped
  | abandon => exact grounded.abandon stepped
  | onVideoTrackUnsubscribed => exact grounded.onVideoTrackUnsubscribed stepped
  | stop => exact grounded.stop stepped
  | checkStop => exact grounded.checkStop stepped
  | read => exact grounded.read stepped
  | publish => exact grounded.publish stepped
  | searchDataTracks => exact grounded.searchDataTracks stepped
  | searchVideoTracks => exact grounded.searchVideoTracks stepped

end Steps

theorem grounded_of_run {state : State Gid}
    (run : (machine Gid).Run (fun state label => state.separates label = true) {} state) : Grounded state := by
  refine run.invariant ?_ fun grounded separates stepped => grounded.step separates stepped
  constructor <;> simp

/-- Where every second list separates the hidden writer of the new publisher from all others,
every sample is dropped if and only if it is inbound, exactly when the tracks of the inbound
samples are still registered as they are looked up. -/
theorem suppression_exact_iff {state : State Gid}
    (run : (machine Gid).Run (fun state label => state.separates label = true) {} state) :
    state.Exact ↔ state.Timely := by
  have grounded := grounded_of_run run
  constructor
  · intro exact decision member inbound
    rw [← (grounded.decisions decision member).1, exact decision member, inbound]
  · intro timely decision member
    obtain ⟨dropped, inbound⟩ := grounded.decisions decision member
    rw [dropped, Bool.eq_iff_iff]
    exact ⟨inbound, timely decision member⟩

instance (state : State Gid) : Decidable state.Exact :=
  inferInstanceAs (Decidable (∀ decision ∈ state.decisions, _))

instance (state : State Gid) : Decidable state.Timely :=
  inferInstanceAs (Decidable (∀ decision ∈ state.decisions, _ → _))

def publishing (index gid : Nat) : List (Label Nat) :=
  [.checkStop index, .read index .converted, .publish index gid]

/-- The sample first in the queue is delivered to a callback that asks `isInboundPublication`. -/
def delivering : List (Label Nat) := [.searchDataTracks 0, .searchVideoTracks 0]

/-- A video track whose publisher has the hidden writer 2, beside a foreign writer 9. -/
def subscribingVideo : List (Label Nat) :=
  [.createPublisherElsewhere 9 "/camera/_buf_cpu", .discover 9, .listPublishers "video" "/camera",
    .createPublisher 1 (some 2), .discover 2, .relistPublishers, .register true]

theorem suppression_exact_with_hidden_writer :
    ∃ state, (machine Nat).Run (fun state label => state.separates label = true) {} state ∧
      state.Exact ∧ state.decisions.map Decision.dropped = [false, true] := by
  obtain ⟨state, run, timely, decided⟩ := Machine.Run.exists_of_exec (machine Nat)
    (fun state label => state.separates label = true) {}
    (subscribingVideo ++ publishing 0 2 ++ delivering ++ [.publishElsewhere 9, .searchDataTracks 0,
      .searchVideoTracks 0])
    (fun state : State Nat => state.Timely ∧ state.decisions.map Decision.dropped = [false, true])
    (by decide +kernel)
  exact ⟨state, run, (suppression_exact_iff run).mpr timely, decided⟩

/-- A sample that is published just before its track is unpublished is forwarded back, and the
samples of another node are dropped if its writer appears while a publisher is created. -/
theorem suppression_not_exact :
    (∃ state, (machine Nat).Reaches {} state ∧ ¬ state.Exact ∧
      state.decisions = [⟨⟨1, "/chatter", .data 1⟩, false, false⟩]) ∧
    ∃ state, (machine Nat).Reaches {} state ∧ ¬ state.Exact ∧
      state.decisions = [⟨⟨9, "/camera/_buf_cpu", .foreign⟩, false, true⟩] := by
  constructor
  · obtain ⟨state, reached, inexact, decided⟩ := Machine.Reaches.exists_of_exec (machine Nat) {}
      ([.onDataTrackPublished "data" "/chatter" 1, .startReader 0 true] ++ publishing 0 1 ++
        [.onDataTrackUnpublished "data"] ++ delivering)
      (fun state : State Nat => ¬ state.Exact ∧
        state.decisions = [⟨⟨1, "/chatter", .data 1⟩, false, false⟩])
      (by decide +kernel)
    exact ⟨state, reached, inexact, decided⟩
  · obtain ⟨state, reached, inexact, decided⟩ := Machine.Reaches.exists_of_exec (machine Nat) {}
      ([.listPublishers "video" "/camera", .createPublisher 1 (some 2), .discover 2,
        .createPublisherElsewhere 9 "/camera/_buf_cpu", .discover 9, .relistPublishers, .register true,
        .publishElsewhere 9] ++ delivering)
      (fun state : State Nat => ¬ state.Exact ∧
        state.decisions = [⟨⟨9, "/camera/_buf_cpu", .foreign⟩, false, true⟩])
      (by decide +kernel)
    exact ⟨state, reached, inexact, decided⟩

end RosPortal.Inbound
