import RosPortal.Latched.Bookkeeping

/-! Latched semantics at the peers: which value of a topic a peer was sent last. The store is
bounded over all topics, and a value that is still retained is not stored again. -/

set_option autoImplicit false

namespace RosPortal.Latched

open Interleaving

namespace History

/-- A push cycle has delivered every message of its snapshot to the peer in its current
roster membership, nothing was stored after the snapshot, and nothing received since. -/
def settled (id : String) : History → Bool
  | [] | .received _ _ :: _ | .stored _ _ :: _ => false
  | .reconciled enrolled :: earlier => id ∉ enrolled && settled id earlier
  | .delivered peer version :: earlier =>
      if peer = id then version = (storedSamples earlier).length else settled id earlier
  | _ :: earlier => settled id earlier

theorem deliveredVersion_of_settled {id : String} {history : History}
    (quiet : settled id history = true) : deliveredVersion id history = (storedSamples history).length := by
  induction history with
  | nil => cases quiet
  | cons event earlier ih =>
      cases event with
      | received publisher sample | stored publisher sample => cases quiet
      | reconciled enrolled =>
          simp only [settled, Bool.and_eq_true, decide_eq_true_eq] at quiet
          rw [deliveredVersion, if_neg quiet.1]
          exact ih quiet.2
      | delivered peer version =>
          by_cases same : peer = id
          · simp only [settled, same, if_true, decide_eq_true_eq] at quiet
            rw [deliveredVersion, if_pos same, quiet]
            rfl
          · simp only [settled, same, if_false] at quiet
            rw [deliveredVersion, if_neg same]
            exact ih quiet
      | _ => exact ih quiet

end History

/-- The samples received are small enough for one RPC and their hashes do not collide. -/
def Regular (library : Library) (history : History) : Prop :=
  (∀ sample ∈ History.receivedSamples history, library.dumpSize sample.request ≤ kMaxRpcPayloadBytes) ∧
    ∀ sample ∈ History.receivedSamples history, ∀ other ∈ History.receivedSamples history,
      library.contentHash sample = library.contentHash other → sample = other

instance (library : Library) (history : History) : Decidable (Regular library history) := by
  unfold Regular
  infer_instance

/-- At a settled peer the last payload of every topic is the sample received last. -/
def NewestWins (library : Library) (state : State) : Prop :=
  Regular library state.history → ∀ id topic sample, History.settled id state.history = true →
    History.newest topic state.history = some sample →
      History.lastSent topic id state.history = some sample.request

/-- What is sent last on a topic to a peer that has the current version is the newest
message of the topic in the store. -/
theorem Bookkeeping.lastSent {options : Options} {library : Library} {state : State}
    (books : Bookkeeping options library state) {id topic : String} {sample : Sample}
    (current : History.deliveredVersion id state.history = state.forwarder.version)
    (retained : History.newestRetained options.maxStoredMessages topic state.history = some sample) :
    History.lastSent topic id state.history = some sample.request := by
  obtain ⟨before, sent⟩ := books.current id current
  have found : state.forwarder.messages.reverse.find? (fun message => message.request.topic = topic) =
      some (library.message sample) := by
    rw [books.retained, List.find?_map]
    exact congrArg (Option.map library.message) retained
  rw [History.lastSent, ← sent, List.find?_append, found]
  rfl

/-- The newest value wins on every topic whose sample received last is the newest of the
topic among the samples that the store retains. -/
theorem newest_wins (options : Options) (library : Library) {state : State}
    (reached : (machine options library).Reaches {} state) {id topic : String} {sample : Sample}
    (settled : History.settled id state.history = true)
    (newest : History.newest topic state.history = some sample)
    (retained : History.newestRetained options.maxStoredMessages topic state.history =
      History.newest topic state.history) :
    History.lastSent topic id state.history = some sample.request := by
  have books := bookkeeping_of_reaches reached
  have current := (History.deliveredVersion_of_settled settled).trans books.version.symm
  exact books.lastSent current (retained.trans newest)

/-- A hash function and the size of a dumped object whose strings need no escapes. -/
def plainLibrary : Library where
  hashString text := text.toList.foldl (fun seed letter => seed * 31 + letter.toNat.toUInt64) 7
  hashBytes bytes := bytes.foldl (fun seed byte => seed * 31 + byte.toUInt64) 7
  dumpSize request := 36 + request.topic.length + request.msgType.length + request.data.length

def receiving (topic : String) (data : List UInt8) : List Label :=
  [.receive .ordinary ⟨topic, "std_msgs/msg/String", data⟩ true, .callback 0, .callback 0]

def pushing (id : String) (messages : Nat) : List Label :=
  [.wake true, .list true, .reconcile, .pick id] ++
    (List.replicate messages [.perform, .answer true]).flatten ++ [.perform, .record, .finish]

theorem newest_wins_after_push :
    ∃ state, (machine {} plainLibrary).Reaches {} state ∧
      History.lastSent "/mode" "peer" state.history = some ⟨"/mode", "std_msgs/msg/String", "Ag=="⟩ := by
  obtain ⟨state, reached, settled, newest, retained⟩ := Machine.Reaches.exists_of_exec (machine {} plainLibrary) {}
    ([.join "peer"] ++ receiving "/mode" [1] ++ receiving "/mode" [2] ++ pushing "peer" 2)
    (fun state : State => History.settled "peer" state.history = true ∧
      History.newest "/mode" state.history = some ⟨"/mode", "std_msgs/msg/String", [2]⟩ ∧
      History.newestRetained 32 "/mode" state.history = History.newest "/mode" state.history)
    (by decide +kernel)
  have sent := newest_wins {} plainLibrary reached settled newest retained
  exact ⟨state, reached, sent⟩

/-- A settled peer was sent something else last than the sample received last. -/
def Loses (library : Library) (id : String) (sample : Sample) (state : State) : Prop :=
  Regular library state.history ∧ History.settled id state.history = true ∧
    History.newest sample.topic state.history = some sample ∧
      History.lastSent sample.topic id state.history ≠ some sample.request

instance (library : Library) (id : String) (sample : Sample) (state : State) :
    Decidable (Loses library id sample state) := by
  unfold Loses
  infer_instance

theorem Loses.not_newestWins {library : Library} {id : String} {sample : Sample} {state : State}
    (loses : Loses library id sample state) : ¬ NewestWins library state := by
  obtain ⟨regular, settled, newest, other⟩ := loses
  exact fun wins => other (wins regular id sample.topic sample settled newest)

/-- Samples of other content, as many as the store retains. -/
def filling : List Label := (List.range 32).flatMap fun value => receiving "/map" [value.toUInt8]

/-- The newest sample loses when other topics have pushed it out of the store, and when it
repeats a value that is retained from before another value of its topic. -/
theorem newest_loses :
    (∃ state, (machine {} plainLibrary).Reaches {} state ∧ ¬ NewestWins plainLibrary state ∧
      History.newestRetained 32 "/mode" state.history = none) ∧
    ∃ state, (machine {} plainLibrary).Reaches {} state ∧ ¬ NewestWins plainLibrary state ∧
      History.newestRetained 32 "/mode" state.history ≠ none := by
  constructor
  · obtain ⟨state, reached, loses, evicted⟩ := Machine.Reaches.exists_of_exec (machine {} plainLibrary) {}
      ([.join "peer"] ++ receiving "/mode" [1] ++ filling ++ pushing "peer" 32)
      (fun state : State => Loses plainLibrary "peer" ⟨"/mode", "std_msgs/msg/String", [1]⟩ state ∧
        History.newestRetained 32 "/mode" state.history = none)
      (by decide +kernel)
    exact ⟨state, reached, loses.not_newestWins, evicted⟩
  · obtain ⟨state, reached, loses, retained⟩ := Machine.Reaches.exists_of_exec (machine {} plainLibrary) {}
      ([.join "peer"] ++ receiving "/mode" [1] ++ receiving "/mode" [2] ++
        [.receive .ordinary ⟨"/mode", "std_msgs/msg/String", [1]⟩ true, .callback 0] ++ pushing "peer" 2)
      (fun state : State => Loses plainLibrary "peer" ⟨"/mode", "std_msgs/msg/String", [1]⟩ state ∧
        History.newestRetained 32 "/mode" state.history ≠ none)
      (by decide +kernel)
    exact ⟨state, reached, loses.not_newestWins, retained⟩

end RosPortal.Latched
