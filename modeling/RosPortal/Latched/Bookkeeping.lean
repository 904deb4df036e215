import RosPortal.Latched.Outbound

/-! What the forwarder's members say about what has happened: the messages retained, the
version, and for every peer of the roster the version delivered to it. -/

set_option autoImplicit false

namespace RosPortal.Latched

open Interleaving

/-- A push compared with the store it was copied from. -/
structure Push.Consistent (forwarder : LatchedTopicForwarder) (delivered : String → Nat)
    (push : Push) : Prop where
  notNewer : push.version ≤ forwarder.version
  copied : push.version = forwarder.version → push.messages = forwarder.messages
  behind : ∀ id ∈ push.targets, delivered id < push.version

/-- The push has taken up the target, which is behind until the outcome is recorded. -/
structure Push.Serving (forwarder : LatchedTopicForwarder) (delivered : String → Nat)
    (push : Push) (id : String) : Prop extends Push.Consistent forwarder delivered push where
  taken : id ∉ push.targets
  servedBehind : delivered id < push.version

/-- What has been sent to the target in this push comes last among what was sent to it. -/
def Worker.Consistent (forwarder : LatchedTopicForwarder) (delivered : String → Nat)
    (sent : String → List StoredMessage) : Worker → Prop
  | .idle | .listing | .reconciling _ => True
  | .pushing push => push.Consistent forwarder delivered
  | .sending push id rest | .awaiting push id rest =>
      push.Serving forwarder delivered id ∧
        ∃ done, done ++ rest = push.messages ∧ done.reverse <+: sent id
  | .recording push id succeeded =>
      push.Serving forwarder delivered id ∧
        (succeeded = true → push.messages.reverse <+: sent id)

structure Bookkeeping (options : Options) (library : Library) (state : State) : Prop where
  version : state.forwarder.version = (History.storedSamples state.history).length
  retained : state.forwarder.messages.reverse =
    ((History.storedSamples state.history).take options.maxStoredMessages).map library.message
  roster : ∀ {id : String} {entry : ParticipantState},
    state.forwarder.participantStates id = some entry →
      entry.deliveredVersion = History.deliveredVersion id state.history
  notNewer : ∀ id, History.deliveredVersion id state.history ≤ state.forwarder.version
  /-- A peer that the current version was delivered to was sent the retained messages last. -/
  current : ∀ id, History.deliveredVersion id state.history = state.forwarder.version →
    state.forwarder.messages.reverse <+: History.sentInMembership id state.history
  worker : state.worker.Consistent state.forwarder
    (fun id => History.deliveredVersion id state.history)
    (fun id => History.sentInMembership id state.history)

theorem bookkeeping_initial (options : Options) (library : Library) :
    Bookkeeping options library {} where
  version := rfl
  retained := by simp [History.storedSamples]
  roster := fun found => (nomatch found)
  notNewer := fun _ => Nat.le_refl 0
  current := fun _ _ => List.prefix_refl []
  worker := trivial

section Store

variable {options : Options} {forwarder : LatchedTopicForwarder} {message : StoredMessage}
  {delivered : String → Nat} {sent : String → List StoredMessage}

theorem Push.Consistent.stored {push : Push} (consistent : push.Consistent forwarder delivered) :
    push.Consistent (forwarder.store options message) delivered where
  notNewer := Nat.le_succ_of_le consistent.notNewer
  copied := fun same => absurd same (Nat.ne_of_lt (Nat.lt_succ_of_le consistent.notNewer))
  behind := consistent.behind

theorem Push.Serving.stored {push : Push} {id : String} (serving : push.Serving forwarder delivered id) :
    push.Serving (forwarder.store options message) delivered id :=
  { serving.toConsistent.stored with taken := serving.taken, servedBehind := serving.servedBehind }

theorem Worker.Consistent.stored {worker : Worker} (consistent : worker.Consistent forwarder delivered sent) :
    worker.Consistent (forwarder.store options message) delivered sent := by
  cases worker with
  | idle | listing | reconciling => trivial
  | pushing push => exact Push.Consistent.stored consistent
  | sending push id rest | awaiting push id rest => exact ⟨consistent.1.stored, consistent.2⟩
  | recording push id succeeded => exact ⟨consistent.1.stored, consistent.2⟩

end Store

/-- Cutting a list to the limit before or after an element is added in front is the same. -/
theorem take_cons_take {α : Type} (limit : Nat) (first : α) (rest : List α) :
    (first :: rest.take limit).take limit = (first :: rest).take limit := by
  cases limit with
  | zero => rfl
  | succ limit => simp [List.take_take]

section Steps

variable {options : Options} {library : Library} {state : State}

theorem Bookkeeping.stored (books : Bookkeeping options library state) (publisher : Publisher)
    (sample : Sample) (callbacks : List Callback) :
    Bookkeeping options library
      { state with
        forwarder := state.forwarder.store options (library.message sample)
        callbacks
        history := .stored publisher sample :: state.history } where
  version := by
    change state.forwarder.version + 1 = (History.storedSamples state.history).length + 1
    rw [books.version]
  retained := by
    rw [LatchedTopicForwarder.store_messages, books.retained]
    change _ = ((sample :: History.storedSamples state.history).take _).map library.message
    rw [← List.map_cons, ← List.map_take, take_cons_take]
  roster := by
    intro id entry found
    obtain ⟨earlier, held, rearmed⟩ := Option.map_eq_some_iff.mp found
    have same := books.roster held
    rw [← rearmed]
    exact same
  notNewer := fun id => Nat.le_succ_of_le (books.notNewer id)
  current := fun id same => absurd same (Nat.ne_of_lt (Nat.lt_succ_of_le (books.notNewer id)))
  worker := books.worker.stored

/-- A peer that enters the roster starts from nothing, every other peer goes on. -/
theorem Bookkeeping.rosterReconciled (books : Bookkeeping options library state)
    (identities : List String) :
    Bookkeeping options library
      { state with
        forwarder := state.forwarder.reconcileRoster identities
        worker := .idle
        history := .reconciled (state.forwarder.enrolled identities) :: state.history } where
  version := books.version
  retained := books.retained
  roster := by
    intro id entry found
    rcases LatchedTopicForwarder.reconcileRoster_cases found with ⟨rfl, fresh⟩ | ⟨held, known⟩
    · simp [History.deliveredVersion, fresh]
    · simp [History.deliveredVersion, known, books.roster held]
  notNewer := by
    intro id
    by_cases fresh : id ∈ state.forwarder.enrolled identities
    · simp [History.deliveredVersion, fresh]
    · simpa [History.deliveredVersion, fresh] using books.notNewer id
  current := by
    intro id same
    by_cases fresh : id ∈ state.forwarder.enrolled identities
    · simp only [History.deliveredVersion, fresh, if_true] at same
      have nothing : History.storedSamples state.history = [] :=
        List.length_eq_zero_iff.mp (books.version.symm.trans same.symm)
      have retained := books.retained
      simp only [nothing, List.take_nil, List.map_nil] at retained
      exact retained ▸ List.nil_prefix
    · simp only [History.deliveredVersion, fresh, if_false] at same
      simpa [History.sentInMembership, fresh] using books.current id same
  worker := trivial

theorem Bookkeeping.reconciled (books : Bookkeeping options library state) (identities : List String) :
    Bookkeeping options library (state.reconcile options identities) := by
  have after := books.rosterReconciled identities
  simp only [State.reconcile]
  split
  · exact { after with worker := trivial }
  · refine { after with worker := ⟨Nat.le_refl _, fun _ => rfl, ?_⟩ }
    intro id target
    obtain ⟨_, entry, found, behind⟩ := LatchedTopicForwarder.mem_peers.mp target
    simp only [LatchedTopicForwarder.behind, Bool.and_eq_true, decide_eq_true_eq] at behind
    exact after.roster found ▸ behind.1

theorem deliveredVersion_record (push : Push) (id other : String) (delivered : Bool) :
    History.deliveredVersion other (state.record push id delivered).history =
      if other = id ∧ (state.forwarder.participantStates id).isSome ∧ delivered = true then push.version
      else History.deliveredVersion other state.history := by
  by_cases logged : (state.forwarder.participantStates id).isSome && delivered
  · simp only [State.record, logged, if_true, History.deliveredVersion]
    grind
  · simp only [State.record, logged]
    grind

theorem sentInMembership_record (push : Push) (id other : String) (delivered : Bool) :
    History.sentInMembership other (state.record push id delivered).history =
      History.sentInMembership other state.history := by
  simp only [State.record]
  split <;> rfl

theorem storedSamples_record (push : Push) (id : String) (delivered : Bool) :
    History.storedSamples (state.record push id delivered).history =
      History.storedSamples state.history := by
  simp only [State.record]
  split <;> rfl

theorem Bookkeeping.recorded (books : Bookkeeping options library state) {push : Push} {id : String}
    {delivered : Bool} (recording : state.worker = .recording push id delivered) :
    Bookkeeping options library (state.record push id delivered) := by
  have consistent := books.worker
  rw [recording] at consistent
  obtain ⟨serving, sent⟩ := consistent
  refine { version := ?_, retained := ?_, roster := ?_, notNewer := ?_, current := ?_, worker := ?_ }
  · rw [storedSamples_record]
    exact books.version
  · rw [storedSamples_record]
    exact books.retained
  · intro other entry found
    rw [deliveredVersion_record]
    rcases LatchedTopicForwarder.record_cases found with ⟨different, held⟩ | ⟨earlier, rfl, held, updated⟩
    · simpa [different] using books.roster held
    · cases delivered with
      | true => simp [updated, held]
      | false => simp [updated, books.roster held]
  · intro other
    rw [deliveredVersion_record]
    split
    · exact serving.notNewer
    · exact books.notNewer other
  · intro other same
    rw [deliveredVersion_record] at same
    rw [sentInMembership_record]
    split at same
    case isTrue recorded =>
      obtain ⟨rfl, _, succeeded⟩ := recorded
      exact serving.copied same ▸ sent succeeded
    · exact books.current other same
  · refine ⟨serving.notNewer, serving.copied, ?_⟩
    intro other target
    rw [deliveredVersion_record, if_neg]
    · exact serving.behind other target
    · rintro ⟨rfl, _⟩
      exact serving.taken target

theorem Bookkeeping.step (books : Bookkeeping options library state) {label : Label} {next : State}
    (transition : Transition options library state label next) : Bookkeeping options library next := by
  have consistent := books.worker
  cases transition with
  | stored running distinct => exact books.stored _ _ _
  | reconciled reconciling => exact books.reconciled _
  | recorded recording => exact books.recorded recording
  | woken | listed | notListed | finished => exact { books with worker := trivial }
  | @picked push id pushing target =>
      rw [pushing] at consistent
      refine { books with worker := ⟨⟨⟨consistent.notNewer, consistent.copied, ?_⟩, ?_, ?_⟩, ?_⟩ }
      · intro other remaining
        exact consistent.behind other (List.mem_filter.mp remaining).1
      · simp
      · exact consistent.behind id target
      · exact ⟨[], rfl, List.nil_prefix⟩
  | @performed push id message rest sending =>
      rw [sending] at consistent
      obtain ⟨serving, done, all, sent⟩ := consistent
      refine { books with current := ?_, worker := ⟨⟨serving.toConsistent, serving.taken, serving.servedBehind⟩, ?_⟩ }
      · intro other same
        have different : id ≠ other := by
          rintro rfl
          have behind : History.deliveredVersion id state.history < push.version := serving.servedBehind
          have before : History.deliveredVersion id state.history = state.forwarder.version := same
          have notNewer := serving.notNewer
          omega
        simpa [History.sentInMembership, different] using books.current other same
      · refine ⟨done ++ [message], by rw [← all, List.append_assoc]; rfl, ?_⟩
        simpa [History.sentInMembership] using sent
  | performedAll sending =>
      rw [sending] at consistent
      obtain ⟨serving, done, all, sent⟩ := consistent
      rw [List.append_nil] at all
      exact { books with worker := ⟨serving, fun _ => all ▸ sent⟩ }
  | answered awaiting =>
      rw [awaiting] at consistent
      exact { books with worker := consistent }
  | failed awaiting =>
      rw [awaiting] at consistent
      exact { books with worker := ⟨consistent.1, fun impossible => by cases impossible⟩ }
  | _ => exact { books with }

end Steps

theorem bookkeeping_of_reaches {options : Options} {library : Library} {state : State}
    (reached : (machine options library).Reaches {} state) : Bookkeeping options library state :=
  reached.invariant (bookkeeping_initial options library)
    fun books _ stepped => books.step (step_transition stepped)

end RosPortal.Latched
