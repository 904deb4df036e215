import RosPortal.Latched.Newest

/-! What a push cycle leaves a peer with. The roster is keyed by identity, and a cycle sees
only the identities that are in the room when it lists them. -/

set_option autoImplicit false

namespace RosPortal.Latched

open Interleaving

/-- The events that neither bound a cycle nor belong to its locked section. -/
def Event.ordinary : Event → Bool
  | .cycleStarted | .reconciled _ | .snapshot _ _ | .cycleEnded => false
  | _ => true

namespace History

theorem present_of_steady {id : String} {history : History} (steadily : steady id history = true) :
    present id history = true := by
  induction history with
  | nil => cases steadily
  | cons event earlier ih =>
      cases event with
      | cycleStarted => exact steadily
      | joined peer =>
          simp only [steady, Bool.and_eq_true] at steadily
          simp [present, ih steadily.2]
      | left peer =>
          simp only [steady, Bool.and_eq_true] at steadily
          simp [present, ih steadily.2, steadily.1]
      | _ => exact ih steadily

section Ordinary

variable {event : Event} {history : History} (ordinary : event.ordinary = true)

include ordinary

theorem lastCycle_cons : lastCycle (event :: history) = event :: lastCycle history := by
  cases event with
  | cycleStarted => cases ordinary
  | _ => rfl

theorem steady_of_cons {id : String} (steadily : steady id (event :: history) = true) :
    steady id history = true := by
  cases event with
  | cycleStarted => cases ordinary
  | joined peer | left peer =>
      simp only [steady, Bool.and_eq_true] at steadily
      exact steadily.2
  | _ => exact steadily

theorem snapshot_of_cons {messages : List StoredMessage} {skipped : List String}
    (taken : .snapshot messages skipped ∈ lastCycle (event :: history)) :
    .snapshot messages skipped ∈ lastCycle history := by
  rw [lastCycle_cons ordinary] at taken
  rcases List.mem_cons.mp taken with rfl | earlier
  · cases ordinary
  · exact earlier

theorem not_mem_of_cons {other : Event} (absent : other ∉ lastCycle (event :: history)) :
    other ∉ lastCycle history := by
  rw [lastCycle_cons ordinary] at absent
  exact fun earlier => absent (List.mem_cons_of_mem _ earlier)

theorem sentInMembership_subset_cons (id : String) :
    sentInMembership id history ⊆ sentInMembership id (event :: history) := by
  cases event with
  | reconciled enrolled => cases ordinary
  | sent peer message =>
      by_cases same : peer = id
      · simp [sentInMembership, same]
      · simp [sentInMembership, same]
  | _ => exact fun _ member => member

end Ordinary

end History

open History

/-- A peer that was in the room throughout the last cycle, with no failed RPC to it, was
polled by the cycle. -/
def Listed (history : History) (identities : List String) : Prop :=
  ∀ id, .roomUnavailable ∉ lastCycle history → steady id history = true → id ∈ identities

/-- The last cycle has not come to its snapshot. -/
def Unsnapped (history : History) : Prop :=
  ∀ messages skipped, .snapshot messages skipped ∉ lastCycle history

/-- The peers that the push is through with were sent its messages in their membership. -/
structure Push.Covers (history : History) (push : Push) (current : Option String) : Prop where
  listed : Listed history push.identities
  snapshot : ∀ messages skipped, .snapshot messages skipped ∈ lastCycle history →
    messages = push.messages ∧ skipped = push.skipped
  served : ∀ id ∈ push.identities, id ∉ push.skipped → id ∉ push.targets → current ≠ some id →
    .failed id ∉ lastCycle history → push.messages ⊆ sentInMembership id history

def Worker.Covers (history : History) : Worker → Prop
  | .idle => True
  | .listing => Unsnapped history
  | .reconciling identities => Unsnapped history ∧ Listed history identities
  | .pushing push => push.Covers history none
  | .sending push id _ | .awaiting push id _ => push.Covers history (some id)
  | .recording push id succeeded =>
      push.Covers history (some id) ∧ (succeeded = false → .failed id ∈ lastCycle history)

/-- After a cycle, the peers it disturbed in no way were sent its snapshot in their membership. -/
def ServedInMembership (history : History) : Prop :=
  ∀ id messages skipped, .roomUnavailable ∉ lastCycle history → .failed id ∉ lastCycle history →
    steady id history = true → .snapshot messages skipped ∈ lastCycle history → id ∉ skipped →
      messages ⊆ sentInMembership id history

structure Polling (state : State) : Prop where
  present : ∀ id, History.present id state.history = true → id ∈ state.room
  worker : state.worker.Covers state.history
  ended : ∀ earlier, state.history = .cycleEnded :: earlier → ServedInMembership earlier

theorem Push.Covers.cons {event : Event} {history : History} {push : Push} {current : Option String}
    (ordinary : event.ordinary = true) (covers : push.Covers history current) :
    push.Covers (event :: history) current where
  listed := fun id available steadily =>
    covers.listed id (not_mem_of_cons ordinary available) (steady_of_cons ordinary steadily)
  snapshot := fun messages skipped taken =>
    covers.snapshot messages skipped (snapshot_of_cons ordinary taken)
  served := fun id listed armed done other succeeded =>
    List.Subset.trans (covers.served id listed armed done other (not_mem_of_cons ordinary succeeded))
      (sentInMembership_subset_cons ordinary id)

theorem Worker.Covers.cons {event : Event} {history : History} {worker : Worker}
    (ordinary : event.ordinary = true) (covers : worker.Covers history) :
    worker.Covers (event :: history) := by
  cases worker with
  | idle => trivial
  | listing => exact fun _ _ taken => covers _ _ (snapshot_of_cons ordinary taken)
  | reconciling identities =>
      exact ⟨fun _ _ taken => covers.1 _ _ (snapshot_of_cons ordinary taken),
        fun id available steadily =>
          covers.2 id (not_mem_of_cons ordinary available) (steady_of_cons ordinary steadily)⟩
  | pushing push => exact Push.Covers.cons ordinary covers
  | sending push id rest | awaiting push id rest => exact Push.Covers.cons ordinary covers
  | recording push id succeeded =>
      refine ⟨covers.1.cons ordinary, fun unsuccessful => ?_⟩
      rw [lastCycle_cons ordinary]
      exact List.mem_cons_of_mem _ (covers.2 unsuccessful)

theorem polling_initial : Polling {} where
  present := fun _ there => (nomatch there)
  worker := trivial
  ended := fun _ same => (nomatch same)

section Steps

variable {options : Options} {library : Library} {state next : State}

/-- An ordinary event leaves what the worker covers. -/
theorem polling_cons {event : Event} (ordinary : event.ordinary = true) {worker : Worker}
    {history : History} (covers : worker.Covers history) {room : List String}
    (present : ∀ id, History.present id (event :: history) = true → id ∈ room)
    (forwarder : LatchedTopicForwarder) (callbacks : List Callback) :
    Polling { forwarder, room, callbacks, worker, history := event :: history } where
  present := present
  worker := covers.cons ordinary
  ended := by
    intro earlier same
    obtain ⟨rfl, _⟩ := List.cons.inj same
    cases ordinary

/-- A peer that is neither behind nor skipped has been delivered the current version. -/
theorem current_of_not_target {forwarder : LatchedTopicForwarder} {identities : List String} {id : String}
    {entry : ParticipantState} (listed : id ∈ identities)
    (found : forwarder.participantStates id = some entry)
    (notTarget : id ∉ forwarder.targets options identities)
    (notSkipped : id ∉ forwarder.skipped options identities) :
    forwarder.version ≤ entry.deliveredVersion := by
  simp only [LatchedTopicForwarder.targets, LatchedTopicForwarder.skipped,
    LatchedTopicForwarder.mem_peers, LatchedTopicForwarder.behind] at notTarget notSkipped
  grind

theorem Polling.reconciled (polling : Polling state) (books : Bookkeeping options library state)
    {identities : List String} (reconciling : state.worker = .reconciling identities) :
    Polling (state.reconcile options identities) := by
  have after := books.rosterReconciled identities
  have covers := polling.worker
  rw [reconciling] at covers
  obtain ⟨unsnapped, listed⟩ := covers
  simp only [State.reconcile]
  split
  · refine ⟨polling.present, trivial, ?_⟩
    intro earlier same id messages skipped _ _ _ taken _
    obtain ⟨_, rfl⟩ := List.cons.inj same
    rcases List.mem_cons.mp taken with impossible | earlier
    · cases impossible
    · exact absurd earlier (unsnapped messages skipped)
  · refine ⟨polling.present, ⟨?_, ?_, ?_⟩, fun _ same => by cases same⟩
    · intro id available steadily
      refine listed id (fun earlier => available ?_) steadily
      exact List.mem_cons_of_mem _ (List.mem_cons_of_mem _ earlier)
    · intro messages skipped taken
      rcases List.mem_cons.mp taken with same | taken
      · cases same
        exact ⟨rfl, rfl⟩
      · rcases List.mem_cons.mp taken with impossible | earlier
        · cases impossible
        · exact absurd earlier (unsnapped messages skipped)
    · intro id member armed notTarget _ _
      have entry : (state.forwarder.reconcileRoster identities).participantStates id =
          some ((state.forwarder.participantStates id).getD {}) := by
        simp [LatchedTopicForwarder.reconcileRoster, member]
      have notBehind := current_of_not_target member entry notTarget armed
      rw [after.roster entry] at notBehind
      have current := after.current id (Nat.le_antisymm (after.notNewer id) notBehind)
      exact fun message stored => current.subset (List.mem_reverse.mpr stored)

theorem Polling.recorded (polling : Polling state) (books : Bookkeeping options library state)
    {push : Push} {id : String} {delivered : Bool} (recording : state.worker = .recording push id delivered) :
    Polling (state.record push id delivered) := by
  have covers := polling.worker
  have consistent := books.worker
  rw [recording] at covers consistent
  have through : (Worker.pushing push).Covers state.history := by
    refine { covers.1 with served := ?_ }
    intro other listed armed notTarget _ succeeded
    by_cases same : other = id
    · subst same
      cases delivered with
      | true => exact fun message stored => (consistent.2 rfl).subset (List.mem_reverse.mpr stored)
      | false => exact absurd (covers.2 rfl) succeeded
    · exact covers.1.served other listed armed notTarget (by simpa using Ne.symm same) succeeded
  by_cases logged : (state.forwarder.participantStates id).isSome && delivered
  · simp only [State.record, logged, if_true]
    refine polling_cons rfl through ?_ _ _
    exact polling.present
  · simp only [State.record, logged]
    exact ⟨polling.present, through, polling.ended⟩

theorem Polling.step (polling : Polling state) (books : Bookkeeping options library state) {label : Label}
    (transition : Transition options library state label next) : Polling next := by
  have covers := polling.worker
  cases transition with
  | @joined id absent =>
      refine polling_cons rfl covers ?_ _ _
      intro other there
      simp only [History.present, Bool.or_eq_true, decide_eq_true_eq] at there
      exact List.mem_cons.mpr (there.imp Eq.symm (polling.present other))
  | @left id present =>
      refine polling_cons rfl covers ?_ _ _
      intro other there
      simp only [History.present, Bool.and_eq_true, decide_eq_true_eq] at there
      exact List.mem_filter.mpr ⟨polling.present other there.2, by simpa using Ne.symm there.1⟩
  | received | stored =>
      refine polling_cons rfl covers ?_ _ _
      exact polling.present
  | notReceived | dropped | encoded => exact { polling with }
  | woken idle =>
      exact ⟨polling.present, fun _ _ taken => (nomatch taken), fun _ same => (nomatch same)⟩
  | skipped idle =>
      rw [idle] at covers
      refine ⟨polling.present, idle ▸ trivial, ?_⟩
      intro earlier same id messages skipped available
      obtain ⟨_, rfl⟩ := List.cons.inj same
      exact absurd List.mem_cons_self available
  | listed listing =>
      rw [listing] at covers
      exact ⟨polling.present, ⟨covers, fun id _ steadily => polling.present id (present_of_steady steadily)⟩,
        polling.ended⟩
  | notListed listing =>
      rw [listing] at covers
      refine ⟨polling.present, ⟨?_, ?_⟩, fun _ same => (nomatch same)⟩
      · exact fun _ _ taken => covers _ _ (snapshot_of_cons rfl taken)
      · exact fun _ available => absurd List.mem_cons_self available
  | reconciled reconciling => exact polling.reconciled books reconciling
  | @picked push id pushing target =>
      rw [pushing] at covers
      refine ⟨polling.present, { covers with served := ?_ }, polling.ended⟩
      intro other listed armed notTarget notCurrent succeeded
      refine covers.served other listed armed (fun remaining => notTarget ?_) (nomatch ·) succeeded
      exact List.mem_filter.mpr ⟨remaining, by simpa using fun same => notCurrent (congrArg some same.symm)⟩
  | @performed push id message rest sending =>
      rw [sending] at covers
      have awaiting : (Worker.awaiting push id rest).Covers state.history := covers
      refine polling_cons rfl awaiting ?_ _ _
      exact polling.present
  | performedAll sending =>
      rw [sending] at covers
      exact ⟨polling.present, ⟨covers, (nomatch ·)⟩, polling.ended⟩
  | answered awaiting =>
      rw [awaiting] at covers
      exact ⟨polling.present, covers, polling.ended⟩
  | failed awaiting =>
      rw [awaiting] at covers
      exact ⟨polling.present, ⟨Push.Covers.cons rfl covers, fun _ => List.mem_cons_self⟩,
        fun _ same => (nomatch same)⟩
  | recorded recording => exact polling.recorded books recording
  | @finished push pushing done =>
      rw [pushing] at covers
      refine ⟨polling.present, trivial, ?_⟩
      intro earlier same id messages skipped available succeeded steadily taken armed
      obtain ⟨_, rfl⟩ := List.cons.inj same
      obtain ⟨rfl, rfl⟩ := covers.snapshot messages skipped taken
      exact covers.served id (covers.listed id available steadily) armed (by simp [done]) (nomatch ·) succeeded

end Steps

theorem polling_of_reaches {options : Options} {library : Library} {state : State}
    (reached : (machine options library).Reaches {} state) : Polling state :=
  reached.invariant_with bookkeeping_of_reaches polling_initial
    fun books polling _ stepped => polling.step books (step_transition stepped)

def History.noFailure (history : History) : Bool :=
  (lastCycle history).all fun
    | .failed _ => false
    | _ => true

/-- After a cycle that found the room available and no RPC of which failed, every peer that
was in the room throughout was sent all of its snapshot since it joined. -/
def StayServed (state : State) : Prop :=
  ∀ earlier id messages skipped, state.history = .cycleEnded :: earlier →
    .roomUnavailable ∉ lastCycle earlier → noFailure earlier = true → steady id earlier = true →
      .snapshot messages skipped ∈ lastCycle earlier → messages ⊆ sentInStay id earlier

/-- A peer that the cycle did not skip and whose roster entry was created in its present stay
was sent all of the snapshot in that stay. -/
theorem rejoined_served (options : Options) (library : Library) {state : State}
    (reached : (machine options library).Reaches {} state) {earlier : History}
    (ended : state.history = .cycleEnded :: earlier) {id : String}
    (available : .roomUnavailable ∉ lastCycle earlier) (succeeded : .failed id ∉ lastCycle earlier)
    (steadily : steady id earlier = true) {messages : List StoredMessage} {skipped : List String}
    (taken : .snapshot messages skipped ∈ lastCycle earlier) (armed : id ∉ skipped)
    (enrolled : enrolledInStay id earlier = true) : messages ⊆ sentInStay id earlier := by
  have served := (polling_of_reaches reached).ended earlier ended
  exact List.Subset.trans (served id messages skipped available succeeded steadily taken armed)
    (sentInMembership_subset enrolled)

/-- The peer leaves, a cycle sees it absent, and it joins again. -/
def seenRejoin : List Label :=
  [.leave "peer", .wake true, .list true, .reconcile, .finish, .join "peer"]

theorem rejoined_served_after_absence :
    ∃ state earlier, (machine {} plainLibrary).Reaches {} state ∧ state.history = .cycleEnded :: earlier ∧
      [plainLibrary.message ⟨"/mode", "std_msgs/msg/String", [1]⟩] ⊆ sentInStay "peer" earlier := by
  obtain ⟨state, reached, ended, available, succeeded, steadily, taken, enrolled⟩ :=
    Machine.Reaches.exists_of_exec (machine {} plainLibrary) {}
      ([.join "peer"] ++ receiving "/mode" [1] ++ pushing "peer" 1 ++ seenRejoin ++ pushing "peer" 1)
      (fun state : State => state.history = .cycleEnded :: state.history.tail ∧
        .roomUnavailable ∉ lastCycle state.history.tail ∧ .failed "peer" ∉ lastCycle state.history.tail ∧
        steady "peer" state.history.tail = true ∧
        .snapshot [plainLibrary.message ⟨"/mode", "std_msgs/msg/String", [1]⟩] [] ∈
          lastCycle state.history.tail ∧
        enrolledInStay "peer" state.history.tail = true)
      (by decide +kernel)
  exact ⟨state, state.history.tail, reached, ended, rejoined_served {} plainLibrary reached ended available
    succeeded steadily taken (nomatch ·) enrolled⟩

/-- The last cycle disturbed the peer in no way and left part of its snapshot unsent. -/
def Unserved (id : String) (messages : List StoredMessage) (skipped : List String) (state : State) : Prop :=
  state.history = .cycleEnded :: state.history.tail ∧
    .roomUnavailable ∉ lastCycle state.history.tail ∧ noFailure state.history.tail = true ∧
      steady id state.history.tail = true ∧ .snapshot messages skipped ∈ lastCycle state.history.tail ∧
        ¬ messages ⊆ sentInStay id state.history.tail

instance (id : String) (messages : List StoredMessage) (skipped : List String) (state : State) :
    Decidable (Unserved id messages skipped state) := by
  unfold Unserved
  infer_instance

theorem Unserved.not_stayServed {id : String} {messages : List StoredMessage} {skipped : List String}
    {state : State} (unserved : Unserved id messages skipped state) : ¬ StayServed state := by
  obtain ⟨ended, available, succeeded, steadily, taken, unsent⟩ := unserved
  exact fun served => unsent (served _ id messages skipped ended available succeeded steadily taken)

def failing (id : String) : List Label :=
  [.wake true, .list true, .reconcile, .pick id, .perform, .answer false, .record, .finish]

def resting : List Label := [.wake true, .list true, .reconcile, .finish]

/-- A peer that the failure cap has given up is not served, and neither is a peer that leaves
and joins again between two cycles. -/
theorem stay_not_served :
    (∃ state, (machine {} plainLibrary).Reaches {} state ∧ ¬ StayServed state ∧
      enrolledInStay "peer" state.history = true) ∧
    ∃ state, (machine {} plainLibrary).Reaches {} state ∧ ¬ StayServed state ∧
      enrolledInStay "peer" state.history = false := by
  constructor
  · obtain ⟨state, reached, unserved, enrolled⟩ :=
      Machine.Reaches.exists_of_exec (machine {} plainLibrary) {}
        ([.join "peer"] ++ receiving "/mode" [1] ++ receiving "/mode" [2] ++
          (List.replicate 5 (failing "peer")).flatten ++ resting)
        (fun state : State => Unserved "peer"
          [plainLibrary.message ⟨"/mode", "std_msgs/msg/String", [1]⟩,
            plainLibrary.message ⟨"/mode", "std_msgs/msg/String", [2]⟩] ["peer"] state ∧
          enrolledInStay "peer" state.history = true)
        (by decide +kernel)
    exact ⟨state, reached, unserved.not_stayServed, enrolled⟩
  · obtain ⟨state, reached, unserved, enrolled⟩ :=
      Machine.Reaches.exists_of_exec (machine {} plainLibrary) {}
        ([.join "peer"] ++ receiving "/mode" [1] ++ pushing "peer" 1 ++
          [.leave "peer", .join "peer"] ++ resting)
        (fun state : State => Unserved "peer"
          [plainLibrary.message ⟨"/mode", "std_msgs/msg/String", [1]⟩] [] state ∧
          enrolledInStay "peer" state.history = false)
        (by decide +kernel)
    exact ⟨state, reached, unserved.not_stayServed, enrolled⟩

end RosPortal.Latched
