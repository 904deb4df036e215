import Mathlib.Data.List.Dedup
import Mathlib.Data.List.Perm.Subperm
import RosPortal.Latched.Echo

/-! Samples that arrive while the room is unavailable, and those that arrive while it is
available. The forwarder keeps no trace of the former, so the arrivals are recorded beside it. -/

set_option autoImplicit false

namespace RosPortal.Latched

open Interleaving

/-- The samples are small enough for one RPC, their hashes do not collide, and the store has
room for all their contents. -/
structure Roomy (options : Options) (library : Library) (samples : List Sample) : Prop where
  small : ∀ sample ∈ samples, library.dumpSize sample.request ≤ kMaxRpcPayloadBytes
  apart : ∀ sample ∈ samples, ∀ other ∈ samples,
    library.contentHash sample = library.contentHash other → sample = other
  few : samples.dedup.length ≤ options.maxStoredMessages

instance (options : Options) (library : Library) (samples : List Sample) :
    Decidable (Roomy options library samples) :=
  decidable_of_iff
    ((∀ sample ∈ samples, library.dumpSize sample.request ≤ kMaxRpcPayloadBytes) ∧
      (∀ sample ∈ samples, ∀ other ∈ samples,
        library.contentHash sample = library.contentHash other → sample = other) ∧
      samples.dedup.length ≤ options.maxStoredMessages)
    ⟨fun holds => ⟨holds.1, holds.2.1, holds.2.2⟩, fun roomy => ⟨roomy.small, roomy.apart, roomy.few⟩⟩

theorem Roomy.subset {options : Options} {library : Library} {samples fewer : List Sample}
    (roomy : Roomy options library samples) (subset : fewer ⊆ samples) : Roomy options library fewer where
  small := fun sample member => roomy.small sample (subset member)
  apart := fun sample member other otherMember => roomy.apart sample (subset member) other (subset otherMember)
  few := by
    have contained : fewer.dedup ⊆ samples.dedup := fun sample member =>
      List.mem_dedup.mpr (subset (List.mem_dedup.mp member))
    exact Nat.le_trans (fewer.nodup_dedup.subperm contained).length_le roomy.few

/-- Distinct samples among those that the store has room for are no more than it retains. -/
theorem Roomy.length_le {options : Options} {library : Library} {samples stored : List Sample}
    (roomy : Roomy options library samples) (distinct : stored.Nodup) (subset : stored ⊆ samples) :
    stored.length ≤ options.maxStoredMessages := by
  have contained : stored ⊆ samples.dedup := fun sample member => List.mem_dedup.mpr (subset member)
  exact Nat.le_trans (distinct.subperm contained).length_le roomy.few

namespace LatchedTopicForwarder

theorem evict_of_le {limit : Nat} {messages : List StoredMessage} {hashes : List UInt64}
    (fits : messages.length ≤ limit) : evict limit messages hashes = (messages, hashes) := by
  cases messages with
  | nil => rfl
  | cons front rest => rw [evict, if_neg (Nat.not_lt.mpr fits)]

/-- Below the limit nothing is evicted. -/
theorem store_messageHashes {options : Options} {forwarder : LatchedTopicForwarder} {message : StoredMessage}
    (room : forwarder.messages.length < options.maxStoredMessages) :
    (forwarder.store options message).messageHashes = message.hash :: forwarder.messageHashes := by
  have fits : (forwarder.messages ++ [message]).length ≤ options.maxStoredMessages := by
    rw [List.length_append]
    exact room
  simp only [store, evict_of_le fits]

end LatchedTopicForwarder

def Callback.sample : Callback → Sample
  | .look _ sample | .store _ sample => sample

section Calls

variable {options : Options} {library : Library} {state next : State}

/-- A call of `storeOutboundMessage` ends without storing for one of two reasons. -/
inductive CallStep (options : Options) (library : Library) (state : State) (index : Nat)
    (callback : Callback) : State → Prop where
  | ended
      (reason : state.forwarder.holds (library.contentHash callback.sample) = true ∨
        library.dumpSize callback.sample.request > kMaxRpcPayloadBytes) :
      CallStep options library state index callback
        { state with callbacks := state.callbacks.eraseIdx index }
  | encoded {publisher : Publisher} :
      CallStep options library state index callback
        { state with callbacks := state.callbacks.set index (.store publisher callback.sample) }
  | stored {publisher : Publisher}
      (distinct : state.forwarder.holds (library.contentHash callback.sample) = false) :
      CallStep options library state index callback
        { state with
          forwarder := state.forwarder.store options (library.message callback.sample)
          callbacks := state.callbacks.eraseIdx index
          history := .stored publisher callback.sample :: state.history }

theorem callback?_cases {index : Nat} (stepped : state.callback? options library index = some next) :
    ∃ callback, state.callbacks[index]? = some callback ∧
      CallStep options library state index callback next := by
  unfold State.callback? at stepped
  split at stepped
  · cases stepped
  case h_2 publisher sample running =>
    cases stepped
    refine ⟨_, running, ?_⟩
    unfold State.look
    split
    · exact .ended (.inl ‹_›)
    · split
      · exact .ended (.inr ‹_›)
      · exact .encoded
  case h_3 publisher sample running =>
    cases stepped
    refine ⟨_, running, ?_⟩
    unfold State.store
    split
    · exact .ended (.inl ‹_›)
    · exact .stored (Bool.eq_false_iff.mpr ‹_›)

end Calls

/-- What became of the samples received: each is in the hands of a call that is in progress, or
its hash is held. As long as nothing is evicted the hashes held are those of the samples stored. -/
structure Retains (library : Library) (callbacks : List Callback) (hashes : List UInt64)
    (stored received : List Sample) : Prop where
  running : ∀ callback ∈ callbacks, callback.sample ∈ received
  origin : stored ⊆ received
  held : hashes = stored.map library.contentHash
  distinct : hashes.Nodup
  accounted : ∀ sample ∈ received,
    (∃ callback ∈ callbacks, callback.sample = sample) ∨ library.contentHash sample ∈ hashes

theorem mem_of_running {callbacks : List Callback} {index : Nat} {callback other : Callback}
    (running : callbacks[index]? = some callback) (member : other ∈ callbacks) :
    other = callback ∨ other ∈ callbacks.eraseIdx index := by
  obtain ⟨position, found⟩ := List.getElem?_of_mem member
  by_cases same : position = index
  · subst same
    exact .inl (Option.some.inj (found.symm.trans running))
  · exact .inr (List.mem_eraseIdx_iff_getElem?.mpr ⟨position, same, found⟩)

namespace Retains

variable {library : Library} {callbacks : List Callback} {hashes : List UInt64}
  {stored received : List Sample} {index : Nat} {callback : Callback}

theorem arrived (retains : Retains library callbacks hashes stored received) (publisher : Publisher)
    (sample : Sample) :
    Retains library (callbacks ++ [.look publisher sample]) hashes stored (sample :: received) where
  running := by
    intro other member
    rcases List.mem_append.mp member with earlier | new
    · exact List.mem_cons_of_mem _ (retains.running other earlier)
    · obtain rfl := List.mem_singleton.mp new
      exact List.mem_cons_self
  origin := List.subset_cons_of_subset _ retains.origin
  held := retains.held
  distinct := retains.distinct
  accounted := by
    intro other member
    rcases List.mem_cons.mp member with rfl | earlier
    · exact .inl ⟨_, List.mem_append_right _ List.mem_cons_self, rfl⟩
    · rcases retains.accounted other earlier with ⟨call, inProgress, same⟩ | held
      · exact .inl ⟨call, List.mem_append_left _ inProgress, same⟩
      · exact .inr held

theorem ended (retains : Retains library callbacks hashes stored received)
    (running : callbacks[index]? = some callback) (held : library.contentHash callback.sample ∈ hashes) :
    Retains library (callbacks.eraseIdx index) hashes stored received where
  running := fun other member => retains.running other (List.mem_of_mem_eraseIdx member)
  origin := retains.origin
  held := retains.held
  distinct := retains.distinct
  accounted := by
    intro sample member
    rcases retains.accounted sample member with ⟨call, inProgress, same⟩ | held
    · rcases mem_of_running running inProgress with rfl | remaining
      · exact .inr (same ▸ held)
      · exact .inl ⟨call, remaining, same⟩
    · exact .inr held

theorem encoded (retains : Retains library callbacks hashes stored received)
    (running : callbacks[index]? = some callback) (publisher : Publisher) :
    Retains library (callbacks.set index (.store publisher callback.sample)) hashes stored received where
  running := by
    intro other member
    rcases List.mem_or_eq_of_mem_set member with remaining | rfl
    · exact retains.running other remaining
    · exact retains.running callback (List.mem_of_getElem? running)
  origin := retains.origin
  held := retains.held
  distinct := retains.distinct
  accounted := by
    intro sample member
    rcases retains.accounted sample member with ⟨call, inProgress, same⟩ | held
    · obtain ⟨position, found⟩ := List.getElem?_of_mem inProgress
      by_cases taken : index = position
      · subst taken
        obtain rfl := Option.some.inj (found.symm.trans running)
        exact .inl ⟨_, List.mem_set (List.getElem?_eq_some_iff.mp found).1 _, same⟩
      · exact .inl ⟨call, List.mem_of_getElem? ((List.getElem?_set_ne taken).trans found), same⟩
    · exact .inr held

theorem added (retains : Retains library callbacks hashes stored received) {sample : Sample}
    (known : sample ∈ received) (fresh : library.contentHash sample ∉ hashes) :
    Retains library callbacks (library.contentHash sample :: hashes) (sample :: stored) received where
  running := retains.running
  origin := List.cons_subset.mpr ⟨known, retains.origin⟩
  held := congrArg (library.contentHash sample :: ·) retains.held
  distinct := List.nodup_cons.mpr ⟨fresh, retains.distinct⟩
  accounted := fun other member => (retains.accounted other member).imp_right (List.mem_cons_of_mem _)

theorem nodup (retains : Retains library callbacks hashes stored received) : stored.Nodup :=
  List.Nodup.of_map library.contentHash (retains.held ▸ retains.distinct)

end Retains

def State.Retains (library : Library) (state : State) : Prop :=
  Latched.Retains library state.callbacks state.forwarder.messageHashes
    (History.storedSamples state.history) (History.receivedSamples state.history)

section Steps

variable {options : Options} {library : Library} {state next : State} {label : Label}

/-- The sample of a call that finds the room available. -/
def Label.accepted? : Label → Option Sample
  | .receive _ sample true => some sample
  | _ => none

theorem Transition.receivedSamples_eq (transition : Transition options library state label next) :
    History.receivedSamples next.history = label.accepted?.toList ++ History.receivedSamples state.history := by
  cases transition with
  | reconciled reconciling =>
      simp only [State.reconcile]
      split <;> rfl
  | recorded recording =>
      simp only [State.record]
      split <;> rfl
  | _ => rfl

theorem Bookkeeping.length_lt (books : Bookkeeping options library state)
    (room : (History.storedSamples state.history).length < options.maxStoredMessages) :
    state.forwarder.messages.length < options.maxStoredMessages := by
  have same := congrArg List.length books.retained
  simp only [List.length_reverse, List.length_map, List.length_take] at same
  omega

theorem State.Retains.stored (retains : state.Retains library) (books : Bookkeeping options library state)
    (roomy : Roomy options library (History.receivedSamples state.history)) {index : Nat} {callback : Callback}
    (running : state.callbacks[index]? = some callback)
    (fresh : state.forwarder.holds (library.contentHash callback.sample) = false) (publisher : Publisher) :
    State.Retains library
      { state with
        forwarder := state.forwarder.store options (library.message callback.sample)
        callbacks := state.callbacks.eraseIdx index
        history := .stored publisher callback.sample :: state.history } := by
  have known := retains.running callback (List.mem_of_getElem? running)
  have absent : library.contentHash callback.sample ∉ state.forwarder.messageHashes := by
    simpa [LatchedTopicForwarder.holds] using fresh
  have added := Retains.added retains known absent
  have room := books.length_lt (roomy.length_le added.nodup added.origin)
  unfold State.Retains
  rw [LatchedTopicForwarder.store_messageHashes room]
  exact added.ended running List.mem_cons_self

theorem State.Retains.called (retains : state.Retains library) (books : Bookkeeping options library state)
    (roomy : Roomy options library (History.receivedSamples state.history)) {index : Nat}
    (stepped : state.callback? options library index = some next) : next.Retains library := by
  obtain ⟨callback, running, call⟩ := callback?_cases stepped
  cases call with
  | ended reason =>
      rcases reason with holds | large
      · exact Retains.ended retains running (List.contains_iff_mem.mp holds)
      · have small := roomy.small _ (retains.running callback (List.mem_of_getElem? running))
        exact absurd small (Nat.not_le.mpr large)
  | encoded => exact Retains.encoded retains running _
  | stored fresh => exact retains.stored books roomy running fresh _

theorem State.Retains.step (retains : state.Retains library) (books : Bookkeeping options library state)
    (roomy : Roomy options library (History.receivedSamples state.history))
    (stepped : (Latched.machine options library).step? state label = some next) : next.Retains library := by
  have transition := step_transition stepped
  cases transition with
  | received => exact Retains.arrived retains _ _
  | dropped | encoded | stored => exact retains.called books roomy stepped
  | reconciled reconciling =>
      simp only [State.reconcile]
      split <;> exact retains
  | recorded recording =>
      simp only [State.record]
      split <;> exact retains
  | _ => exact retains

theorem retains_of_reaches (reached : (Latched.machine options library).Reaches {} state)
    (roomy : Roomy options library (History.receivedSamples state.history)) : state.Retains library := by
  induction reached with
  | refl =>
      constructor <;> simp [History.storedSamples, History.receivedSamples]
  | @step before after label earlier _ stepped ih =>
      have received := (step_transition stepped).receivedSamples_eq
      have before := roomy.subset (received ▸ List.subset_append_right _ _)
      exact (ih before).step (bookkeeping_of_reaches earlier) before stepped

end Steps

namespace History

/-- Everything stored was delivered to the peer in its current roster membership. -/
def upToDate (id : String) (history : History) : Prop :=
  deliveredVersion id history = (storedSamples history).length

instance (id : String) (history : History) : Decidable (upToDate id history) :=
  inferInstanceAs (Decidable (_ = _))

theorem sent_of_mem_sentInMembership {id : String} {message : StoredMessage} {history : History}
    (sent : message ∈ sentInMembership id history) : .sent id message ∈ history := by
  induction history with
  | nil => cases sent
  | cons event earlier ih =>
      cases event with
      | reconciled enrolled =>
          by_cases listed : id ∈ enrolled
          · simp [sentInMembership, listed] at sent
          · exact List.mem_cons_of_mem _ (ih (by simpa [sentInMembership, listed] using sent))
      | sent peer other =>
          by_cases same : peer = id
          · rcases (by simpa [sentInMembership, same] using sent : message = other ∨ _) with rfl | before
            · exact same ▸ List.mem_cons_self
            · exact List.mem_cons_of_mem _ (ih before)
          · exact List.mem_cons_of_mem _ (ih (by simpa [sentInMembership, same] using sent))
      | _ => exact List.mem_cons_of_mem _ (ih sent)

end History

structure Arrival where
  sample : Sample
  available : Bool
deriving DecidableEq, Repr

def Label.arrival? : Label → Option Arrival
  | .receive _ sample available => some ⟨sample, available⟩
  | _ => none

/-- A forwarder with all the samples that its subscriptions were called with, newest first. -/
structure Observed where
  state : State := {}
  arrivals : List Arrival := []

namespace Observed

def machine (options : Options) (library : Library) : Machine Observed Label where
  step? observed label :=
    (step? options library observed.state label).map fun state =>
      { state, arrivals := label.arrival?.toList ++ observed.arrivals }

def samples (observed : Observed) : List Sample := observed.arrivals.map Arrival.sample

def availableSamples (observed : Observed) : List Sample :=
  (observed.arrivals.filter Arrival.available).map Arrival.sample

theorem availableSamples_subset (observed : Observed) : observed.availableSamples ⊆ observed.samples :=
  List.map_subset _ (List.filter_subset_self _)

theorem step_cases {options : Options} {library : Library} {observed next : Observed} {label : Label}
    (stepped : (machine options library).step? observed label = some next) :
    step? options library observed.state label = some next.state ∧
      next.arrivals = label.arrival?.toList ++ observed.arrivals := by
  obtain ⟨state, inner, rfl⟩ := Option.map_eq_some_iff.mp stepped
  exact ⟨inner, rfl⟩

theorem state_reaches {options : Options} {library : Library} {observed : Observed}
    (reached : (machine options library).Reaches {} observed) :
    (Latched.machine options library).Reaches {} observed.state := by
  induction reached with
  | refl => exact .refl
  | step _ _ stepped ih => exact .step ih trivial (step_cases stepped).1

/-- The forwarder has received what arrived while the room was available. -/
theorem availableSamples_eq {options : Options} {library : Library} {observed : Observed}
    (reached : (machine options library).Reaches {} observed) :
    observed.availableSamples = History.receivedSamples observed.state.history := by
  induction reached with
  | refl => rfl
  | @step before next label _ _ stepped ih =>
      obtain ⟨inner, arrived⟩ := step_cases stepped
      have received := (step_transition inner).receivedSamples_eq
      rw [availableSamples, arrived, received, ← ih]
      cases label with
      | receive publisher sample available => cases available <;> rfl
      | _ => rfl

end Observed

def newestOf (topic : String) (samples : List Sample) : Option Sample :=
  samples.find? fun sample => sample.topic = topic

theorem mem_of_newestOf {topic : String} {samples : List Sample} {sample : Sample}
    (newest : newestOf topic samples = some sample) : sample ∈ samples ∧ sample.topic = topic :=
  ⟨List.mem_of_find?_eq_some newest, by simpa using List.find?_some newest⟩

section Delivery

variable {options : Options} {library : Library} {state : State} {id : String} {sample : Sample}

theorem Bookkeeping.sent_of_stored (books : Bookkeeping options library state)
    (room : (History.storedSamples state.history).length ≤ options.maxStoredMessages)
    (delivered : History.upToDate id state.history) (stored : sample ∈ History.storedSamples state.history) :
    library.message sample ∈ History.sentInMembership id state.history := by
  have last := books.current id (delivered.trans books.version.symm)
  have retained := books.retained
  rw [List.take_of_length_le room] at retained
  exact last.subset (retained ▸ List.mem_map_of_mem stored)

theorem State.Retains.stored_of_received (retains : state.Retains library)
    (roomy : Roomy options library (History.receivedSamples state.history))
    (finished : ∀ callback ∈ state.callbacks, callback.sample ≠ sample)
    (received : sample ∈ History.receivedSamples state.history) :
    sample ∈ History.storedSamples state.history := by
  rcases retains.accounted sample received with ⟨callback, inProgress, same⟩ | held
  · exact absurd same (finished callback inProgress)
  · rw [retains.held] at held
    obtain ⟨other, stored, sameHash⟩ := List.mem_map.mp held
    exact roomy.apart other (retains.origin stored) sample received sameHash ▸ stored

theorem sourced_of_reaches (reached : (machine options library).Reaches {} state) :
    Sourced library state := by
  refine reached.invariant_with bookkeeping_of_reaches ⟨?_, ?_⟩ ?_
  · exact fun _ member => (nomatch member)
  · exact fun _ _ sent => (nomatch sent)
  · exact fun books sourced _ stepped => sourced.step books (step_transition stepped)

end Delivery

/-- The peer was sent the newest sample of every topic, whether or not the room was available
when it arrived. -/
def NewestSent (library : Library) (observed : Observed) : Prop :=
  ∀ id topic sample, History.upToDate id observed.state.history →
    (∀ callback ∈ observed.state.callbacks, callback.sample.topic ≠ topic) →
      newestOf topic observed.samples = some sample →
        .sent id (library.message sample) ∈ observed.state.history

/-- After a push that delivered everything the peer has been sent the newest of the samples that
arrived while the room was available, and the newest of all samples if it is one of them. -/
theorem newest_available_sent (options : Options) (library : Library) {observed : Observed}
    (reached : (Observed.machine options library).Reaches {} observed)
    (roomy : Roomy options library observed.samples) {id topic : String}
    (delivered : History.upToDate id observed.state.history)
    (finished : ∀ callback ∈ observed.state.callbacks, callback.sample.topic ≠ topic) :
    (∀ sample, newestOf topic observed.availableSamples = some sample →
      library.message sample ∈ History.sentInMembership id observed.state.history) ∧
    ∀ sample, newestOf topic observed.samples = some sample →
      (.sent id (library.message sample) ∈ observed.state.history ↔ sample ∈ observed.availableSamples) := by
  have inner := Observed.state_reaches reached
  have available := Observed.availableSamples_eq reached
  have accepted : Roomy options library (History.receivedSamples observed.state.history) :=
    roomy.subset (available ▸ observed.availableSamples_subset)
  have books := bookkeeping_of_reaches inner
  have retains := retains_of_reaches inner accepted
  have sent : ∀ sample ∈ observed.availableSamples, sample.topic = topic →
      library.message sample ∈ History.sentInMembership id observed.state.history := by
    intro sample arrived sameTopic
    have stored := retains.stored_of_received accepted
      (fun callback inProgress same => finished callback inProgress (same ▸ sameTopic)) (available ▸ arrived)
    exact books.sent_of_stored (accepted.length_le retains.nodup retains.origin) delivered stored
  constructor
  · intro sample newest
    obtain ⟨arrived, sameTopic⟩ := mem_of_newestOf newest
    exact sent sample arrived sameTopic
  · intro sample newest
    obtain ⟨arrived, sameTopic⟩ := mem_of_newestOf newest
    constructor
    · intro sentBefore
      obtain ⟨publisher, other, stored, same⟩ := (sourced_of_reaches inner).sent _ _ sentBefore
      have otherAccepted : other ∈ observed.availableSamples :=
        available ▸ retains.origin (List.mem_filterMap.mpr ⟨_, stored, rfl⟩)
      have sameHash : library.contentHash sample = library.contentHash other :=
        congrArg StoredMessage.hash same
      have equal := roomy.apart sample arrived other (observed.availableSamples_subset otherAccepted) sameHash
      exact equal ▸ otherAccepted
    · exact fun arrivedAvailable => History.sent_of_mem_sentInMembership (sent sample arrivedAvailable sameTopic)

def modeSample (value : UInt8) : Sample := ⟨"/mode", "std_msgs/msg/String", [value]⟩

/-- The room is lost after the sample was stored; the same content arrives again meanwhile. -/
theorem newest_available_sent_after_reconnect :
    ∃ observed, (Observed.machine {} plainLibrary).Reaches {} observed ∧
      newestOf "/mode" observed.samples = some (modeSample 1) ∧
      .sent "peer" (plainLibrary.message (modeSample 1)) ∈ observed.state.history := by
  obtain ⟨observed, reached, roomy, delivered, finished, newest, available⟩ :=
    Machine.Reaches.exists_of_exec (Observed.machine {} plainLibrary) {}
      ([.join "peer"] ++ receiving "/mode" [1] ++ [.wake false, .receive .ordinary (modeSample 1) false] ++
        pushing "peer" 1)
      (fun observed : Observed => Roomy {} plainLibrary observed.samples ∧
        History.upToDate "peer" observed.state.history ∧
        (∀ callback ∈ observed.state.callbacks, callback.sample.topic ≠ "/mode") ∧
        newestOf "/mode" observed.samples = some (modeSample 1) ∧
        modeSample 1 ∈ observed.availableSamples)
      (by decide +kernel)
  have sent := ((newest_available_sent {} plainLibrary reached roomy delivered finished).2 _ newest).mpr available
  exact ⟨observed, reached, newest, sent⟩

/-- A new value arrives while the room is unavailable. After the reconnect a push delivers
everything the forwarder holds, and the peer has never been sent that value. -/
theorem newest_unavailable_not_sent :
    ∃ observed, (Observed.machine {} plainLibrary).Reaches {} observed ∧
      Roomy {} plainLibrary observed.samples ∧ ¬ NewestSent plainLibrary observed := by
  obtain ⟨observed, reached, roomy, delivered, finished, newest, absent⟩ :=
    Machine.Reaches.exists_of_exec (Observed.machine {} plainLibrary) {}
      ([.join "peer"] ++ receiving "/mode" [1] ++ [.receive .ordinary (modeSample 2) false] ++
        pushing "peer" 1)
      (fun observed : Observed => Roomy {} plainLibrary observed.samples ∧
        History.upToDate "peer" observed.state.history ∧
        (∀ callback ∈ observed.state.callbacks, callback.sample.topic ≠ "/mode") ∧
        newestOf "/mode" observed.samples = some (modeSample 2) ∧
        .sent "peer" (plainLibrary.message (modeSample 2)) ∉ observed.state.history)
      (by decide +kernel)
  exact ⟨observed, reached, roomy, fun sent => absent (sent "peer" "/mode" _ delivered finished newest)⟩

end RosPortal.Latched
