import RosPortal.Latched.Newest

/-! The bookkeeping of deliveries over whole runs. What the peers acknowledge and how their
cycles end leaves the code no trace, so it is logged beside the machine. -/

set_option autoImplicit false

namespace RosPortal.Latched

open Interleaving

/-- A cycle is logged at its locked section, with the roster entries it creates and the peers
it targets; it ends for a target when the outcome is recorded. -/
inductive DeliveryEvent where
  | accepted (message : StoredMessage)
  | cycle (enrolled targets : List String)
  | acknowledged (id : String) (message : StoredMessage)
  | ended (id : String) (delivered : Bool)
deriving DecidableEq, Repr

abbrev DeliveryLog := List DeliveryEvent

namespace DeliveryLog

def accepted? : DeliveryEvent → Option StoredMessage
  | .accepted message => some message
  | _ => none

/-- The accepted stores, newest first: a message has the version that is the number of the
stores up to it. -/
def acceptedMessages (log : DeliveryLog) : List StoredMessage := log.filterMap accepted?

/-- What the peer has acknowledged since its roster entry was created. -/
def acknowledged (id : String) : DeliveryLog → List StoredMessage
  | [] => []
  | .cycle enrolled _ :: earlier => if id ∈ enrolled then [] else acknowledged id earlier
  | .acknowledged peer message :: earlier =>
      if peer = id then message :: acknowledged id earlier else acknowledged id earlier
  | _ :: earlier => acknowledged id earlier

/-- The cycles that ended in failure for the peer since the last accepted store and since its
roster entry was created. -/
def failures (id : String) : DeliveryLog → Nat
  | [] => 0
  | .accepted _ :: _ => 0
  | .cycle enrolled _ :: earlier => if id ∈ enrolled then 0 else failures id earlier
  | .ended peer delivered :: earlier =>
      if peer = id ∧ delivered = false then failures id earlier + 1 else failures id earlier
  | .acknowledged _ _ :: earlier => failures id earlier

/-- A cycle has started since the last accepted store. -/
def started : DeliveryLog → Bool
  | [] => false
  | .accepted _ :: _ => false
  | .cycle _ _ :: _ => true
  | _ :: earlier => started earlier

/-- A cycle that started after the last accepted store has succeeded for the peer since its
roster entry was created. -/
def served (id : String) : DeliveryLog → Bool
  | [] => false
  | .accepted _ :: _ => false
  | .cycle enrolled _ :: earlier => id ∉ enrolled && served id earlier
  | .ended peer delivered :: earlier =>
      (peer = id && delivered && started earlier) || served id earlier
  | .acknowledged _ _ :: earlier => served id earlier

/-- A cycle that targets a peer which was in the roster before finds it not served. -/
def TargetsUnserved (log : DeliveryLog) : Prop :=
  ∀ later enrolled targets earlier id, log = later ++ .cycle enrolled targets :: earlier →
    id ∈ targets → id ∉ enrolled → served id earlier = false

theorem TargetsUnserved.cons {log : DeliveryLog} {event : DeliveryEvent} (unserved : log.TargetsUnserved)
    (first : ∀ enrolled targets id, event = .cycle enrolled targets → id ∈ targets → id ∉ enrolled →
      served id log = false) : TargetsUnserved (event :: log) := by
  intro later enrolled targets earlier id same target known
  cases later with
  | nil =>
      cases same
      exact first enrolled targets id rfl target known
  | cons latest later =>
      cases same
      exact unserved later enrolled targets earlier id rfl target known

end DeliveryLog

def State.deliveryEvent? (options : Options) (library : Library) (state : State) :
    Label → Option DeliveryEvent
  | .callback index =>
      match state.callbacks[index]? with
      | some (.store _ sample) =>
          if state.forwarder.holds (library.contentHash sample) then none
          else some (.accepted (library.message sample))
      | _ => none
  | .reconcile =>
      match state.worker with
      | .reconciling identities =>
          let forwarder := state.forwarder.reconcileRoster identities
          some (.cycle (state.forwarder.enrolled identities)
            (if forwarder.messages = [] then [] else forwarder.targets options identities))
      | _ => none
  | .answer true =>
      match state.worker with
      -- the message that the answer is about is the last one that is no longer to be sent
      | .awaiting push id rest =>
          ((push.messages.take (push.messages.length - rest.length)).getLast?).map (.acknowledged id)
      | _ => none
  | .record =>
      match state.worker with
      | .recording _ id delivered => some (.ended id delivered)
      | _ => none
  | _ => none

structure Logged where
  state : State := {}
  log : DeliveryLog := []

namespace Logged

def step? (options : Options) (library : Library) (logged : Logged) (label : Label) : Option Logged :=
  (Latched.step? options library logged.state label).map fun next =>
    { state := next
      log := (logged.state.deliveryEvent? options library label).toList ++ logged.log }

def machine (options : Options) (library : Library) : Machine Logged Label where
  step? := step? options library

theorem step_cases {options : Options} {library : Library} {logged next : Logged} {label : Label}
    (stepped : (machine options library).step? logged label = some next) :
    (Latched.machine options library).step? logged.state label = some next.state ∧
      next.log = (logged.state.deliveryEvent? options library label).toList ++ logged.log := by
  obtain ⟨state, inner, rfl⟩ := Option.map_eq_some_iff.mp stepped
  exact ⟨inner, rfl⟩

theorem state_reaches {options : Options} {library : Library} {logged : Logged}
    (reached : (machine options library).Reaches {} logged) :
    (Latched.machine options library).Reaches {} logged.state := by
  induction reached with
  | refl => exact .refl
  | step _ _ stepped ih => exact .step ih trivial (step_cases stepped).1

end Logged

namespace LatchedTopicForwarder

/-- The hashes held are those of the messages retained, which are all different. -/
structure Indexed (messages : List StoredMessage) (hashes : List UInt64) : Prop where
  held : ∀ hash, hash ∈ hashes ↔ hash ∈ messages.map StoredMessage.hash
  distinct : (messages.map StoredMessage.hash).Nodup

theorem Indexed.evict {limit : Nat} {messages : List StoredMessage} {hashes : List UInt64}
    (indexed : Indexed messages hashes) :
    Indexed (evict limit messages hashes).1 (evict limit messages hashes).2 := by
  induction messages generalizing hashes with
  | nil => exact indexed
  | cons front rest ih =>
      rw [LatchedTopicForwarder.evict]
      split
      · have distinct := indexed.distinct
        rw [List.map_cons, List.nodup_cons] at distinct
        apply ih
        refine { held := ?_, distinct := distinct.2 }
        intro hash
        rw [List.mem_filter, indexed.held, List.map_cons, List.mem_cons, decide_eq_true_eq]
        constructor
        · intro kept
          exact kept.1.resolve_left kept.2
        · intro held
          exact ⟨.inr held, fun same => distinct.1 (same ▸ held)⟩
      · exact indexed

theorem Indexed.store {options : Options} {forwarder : LatchedTopicForwarder} {message : StoredMessage}
    (indexed : Indexed forwarder.messages forwarder.messageHashes)
    (fresh : forwarder.holds message.hash = false) :
    Indexed (forwarder.store options message).messages (forwarder.store options message).messageHashes := by
  have absent : message.hash ∉ forwarder.messages.map StoredMessage.hash := by
    rw [← indexed.held]
    simpa [holds] using fresh
  apply Indexed.evict
  constructor
  · intro hash
    simp [indexed.held, or_comm]
  · rw [List.map_append, List.map_singleton, List.nodup_append]
    refine ⟨indexed.distinct, List.pairwise_singleton _ _, ?_⟩
    intro hash held other last
    rw [List.mem_singleton.mp last]
    exact fun same => absent (same ▸ held)

/-- The retained messages that were stored at the version or below, newest first. -/
def retainedUpTo (forwarder : LatchedTopicForwarder) (version : Nat) : List StoredMessage :=
  forwarder.messages.reverse.drop (forwarder.version - version)

/-- A store adds nothing to what was stored at earlier versions. -/
theorem retainedUpTo_store {options : Options} {forwarder : LatchedTopicForwarder} {version : Nat}
    (message : StoredMessage) (earlier : version ≤ forwarder.version) :
    (forwarder.store options message).retainedUpTo version ⊆ forwarder.retainedUpTo version := by
  have later : (forwarder.store options message).version - version = forwarder.version - version + 1 :=
    Nat.succ_sub earlier
  rw [retainedUpTo, later, store_messages, List.drop_take, List.drop_succ_cons]
  exact List.take_subset _ _

theorem retainedUpTo_version (forwarder : LatchedTopicForwarder) :
    forwarder.retainedUpTo forwarder.version = forwarder.messages.reverse := by
  rw [retainedUpTo, Nat.sub_self, List.drop_zero]

end LatchedTopicForwarder

/-- A push compared with the forwarder. The peers due are those whose outcome is to be recorded:
after a store none of them has failed and no cycle has started. -/
structure Push.Due (options : Options) (forwarder : LatchedTopicForwarder) (log : DeliveryLog)
    (push : Push) (due : List String) : Prop where
  copied : forwarder.retainedUpTo push.version ⊆ push.messages
  below : ∀ id ∈ due, DeliveryLog.failures id log < options.maxParticipantFailures
  rearmed : push.version < forwarder.version → ∀ id ∈ due, DeliveryLog.failures id log = 0
  notStarted : push.version < forwarder.version → DeliveryLog.started log = false

/-- What the target has answered in this push it has acknowledged. -/
def Worker.Due (options : Options) (forwarder : LatchedTopicForwarder) (log : DeliveryLog) : Worker → Prop
  | .idle | .listing | .reconciling _ => True
  | .pushing push => push.Due options forwarder log push.targets
  | .sending push id rest =>
      push.Due options forwarder log (id :: push.targets) ∧
        ∃ done, done ++ rest = push.messages ∧ done ⊆ DeliveryLog.acknowledged id log
  | .awaiting push id rest =>
      push.Due options forwarder log (id :: push.targets) ∧
        ∃ done message, done ++ message :: rest = push.messages ∧ done ⊆ DeliveryLog.acknowledged id log
  | .recording push id delivered =>
      push.Due options forwarder log (id :: push.targets) ∧
        (delivered = true → push.messages ⊆ DeliveryLog.acknowledged id log)

/-- The roster against the log. -/
structure Deliveries (options : Options) (forwarder : LatchedTopicForwarder) (worker : Worker)
    (log : DeliveryLog) : Prop where
  version : forwarder.version = (DeliveryLog.acceptedMessages log).length
  retained : forwarder.messages.reverse =
    (DeliveryLog.acceptedMessages log).take options.maxStoredMessages
  indexed : LatchedTopicForwarder.Indexed forwarder.messages forwarder.messageHashes
  acknowledged : ∀ {id : String} {entry : ParticipantState}, forwarder.participantStates id = some entry →
    forwarder.retainedUpTo entry.deliveredVersion ⊆ DeliveryLog.acknowledged id log
  counted : ∀ {id : String} {entry : ParticipantState}, forwarder.participantStates id = some entry →
    DeliveryLog.failures id log ≤ entry.consecutiveFailures ∨ entry.deliveredVersion = forwarder.version
  current : ∀ {id : String} {entry : ParticipantState}, forwarder.participantStates id = some entry →
    DeliveryLog.served id log = true → entry.deliveredVersion = forwarder.version
  capped : ∀ id, DeliveryLog.failures id log ≤ options.maxParticipantFailures
  unserved : DeliveryLog.TargetsUnserved log
  worker : worker.Due options forwarder log

theorem deliveries_initial (options : Options) : Deliveries options {} .idle [] where
  version := rfl
  retained := List.take_nil.symm
  indexed := ⟨fun _ => Iff.rfl, List.nodup_nil⟩
  acknowledged := fun found => by cases found
  counted := fun found => by cases found
  current := fun found => by cases found
  capped := fun _ => Nat.zero_le _
  unserved := by
    intro later enrolled targets earlier _ same
    cases later <;> cases same
  worker := trivial

section Push

variable {options : Options} {forwarder : LatchedTopicForwarder} {log : DeliveryLog} {push : Push}
  {due fewer : List String}

theorem Push.Due.subset (isDue : push.Due options forwarder log due) (subset : fewer ⊆ due) :
    push.Due options forwarder log fewer where
  copied := isDue.copied
  below := fun id member => isDue.below id (subset member)
  rearmed := fun newer id member => isDue.rearmed newer id (subset member)
  notStarted := isDue.notStarted

theorem Push.Due.stored (isDue : push.Due options forwarder log due)
    (notNewer : push.version ≤ forwarder.version) (message : StoredMessage) :
    push.Due options (forwarder.store options message) (.accepted message :: log) due where
  copied := List.Subset.trans (LatchedTopicForwarder.retainedUpTo_store message notNewer) isDue.copied
  below := fun id member => Nat.zero_lt_of_lt (isDue.below id member)
  rearmed := fun _ _ _ => rfl
  notStarted := fun _ => rfl

theorem Push.Due.answered (isDue : push.Due options forwarder log due) (id : String)
    (message : StoredMessage) : push.Due options forwarder (.acknowledged id message :: log) due where
  copied := isDue.copied
  below := isDue.below
  rearmed := isDue.rearmed
  notStarted := isDue.notStarted

/-- The outcome for one peer leaves the others due. -/
theorem Push.Due.recorded {id : String} (isDue : push.Due options forwarder log (id :: due))
    (taken : id ∉ due) (delivered : Bool) :
    push.Due options (forwarder.record id push.version delivered) (.ended id delivered :: log) due := by
  have same : ∀ other ∈ due,
      DeliveryLog.failures other (.ended id delivered :: log) = DeliveryLog.failures other log := by
    intro other member
    have different : id ≠ other := fun equal => taken (equal ▸ member)
    simp [DeliveryLog.failures, different]
  refine { copied := isDue.copied, below := ?_, rearmed := ?_, notStarted := isDue.notStarted }
  · intro other member
    rw [same other member]
    exact isDue.below other (List.mem_cons_of_mem _ member)
  · intro newer other member
    rw [same other member]
    exact isDue.rearmed newer other (List.mem_cons_of_mem _ member)

theorem Worker.Due.stored {worker : Worker} (isDue : worker.Due options forwarder log)
    {delivered : String → Nat} {sent : String → List StoredMessage}
    (consistent : worker.Consistent forwarder delivered sent) (message : StoredMessage) :
    worker.Due options (forwarder.store options message) (.accepted message :: log) := by
  cases worker with
  | idle | listing | reconciling => trivial
  | pushing push => exact Push.Due.stored isDue consistent.notNewer message
  | sending push id rest | awaiting push id rest | recording push id succeeded =>
      exact ⟨isDue.1.stored consistent.1.notNewer message, isDue.2⟩

end Push

section Steps

variable {options : Options} {library : Library} {state : State} {log : DeliveryLog}

theorem Bookkeeping.entry_le (books : Bookkeeping options library state) {id : String}
    {entry : ParticipantState} (found : state.forwarder.participantStates id = some entry) :
    entry.deliveredVersion ≤ state.forwarder.version :=
  books.roster found ▸ books.notNewer id

theorem Bookkeeping.length_le (books : Bookkeeping options library state) :
    state.forwarder.messages.length ≤ state.forwarder.version := by
  have retained := congrArg List.length books.retained
  rw [List.length_reverse, List.length_map, List.length_take] at retained
  rw [retained, books.version]
  exact Nat.min_le_right _ _

theorem Deliveries.accepted (deliveries : Deliveries options state.forwarder state.worker log)
    (books : Bookkeeping options library state) {message : StoredMessage}
    (fresh : state.forwarder.holds message.hash = false) :
    Deliveries options (state.forwarder.store options message) state.worker (.accepted message :: log) where
  version := congrArg (fun count => count + 1) deliveries.version
  retained := by
    rw [LatchedTopicForwarder.store_messages, deliveries.retained, take_cons_take]
    rfl
  indexed := deliveries.indexed.store fresh
  acknowledged := by
    intro id entry found
    obtain ⟨earlier, held, rearmed⟩ := Option.map_eq_some_iff.mp found
    have same : entry.deliveredVersion = earlier.deliveredVersion := by rw [← rearmed]
    rw [same]
    exact List.Subset.trans (LatchedTopicForwarder.retainedUpTo_store message (books.entry_le held))
      (deliveries.acknowledged held)
  counted := fun _ => .inl (Nat.zero_le _)
  current := fun _ impossible => by cases impossible
  capped := fun _ => Nat.zero_le _
  unserved := deliveries.unserved.cons fun _ _ _ impossible => by cases impossible
  worker := deliveries.worker.stored books.worker message

/-- The roster part of a cycle's locked section, whoever is targeted. -/
theorem Deliveries.rosterReconciled (deliveries : Deliveries options state.forwarder state.worker log)
    (books : Bookkeeping options library state) (identities targets : List String)
    (behind : ∀ id ∈ targets, ∃ entry,
      (state.forwarder.reconcileRoster identities).participantStates id = some entry ∧
        entry.deliveredVersion < state.forwarder.version) :
    Deliveries options (state.forwarder.reconcileRoster identities) .idle
      (.cycle (state.forwarder.enrolled identities) targets :: log) where
  version := deliveries.version
  retained := deliveries.retained
  indexed := deliveries.indexed
  acknowledged := by
    intro id entry found
    rcases LatchedTopicForwarder.reconcileRoster_cases found with ⟨rfl, fresh⟩ | ⟨held, known⟩
    · have nothing : state.forwarder.messages.reverse.length ≤ state.forwarder.version := by
        rw [List.length_reverse]
        exact books.length_le
      simp [LatchedTopicForwarder.retainedUpTo, List.drop_eq_nil_of_le nothing]
    · rw [DeliveryLog.acknowledged, if_neg known]
      exact deliveries.acknowledged held
  counted := by
    intro id entry found
    rcases LatchedTopicForwarder.reconcileRoster_cases found with ⟨rfl, fresh⟩ | ⟨held, known⟩
    · exact .inl (by simp [DeliveryLog.failures, fresh])
    · simpa [DeliveryLog.failures, known] using deliveries.counted held
  current := by
    intro id entry found isServed
    simp only [DeliveryLog.served, Bool.and_eq_true, decide_eq_true_eq] at isServed
    rcases LatchedTopicForwarder.reconcileRoster_cases found with ⟨_, fresh⟩ | ⟨held, _⟩
    · exact absurd fresh isServed.1
    · exact deliveries.current held isServed.2
  capped := by
    intro id
    rw [DeliveryLog.failures]
    split
    · exact Nat.zero_le _
    · exact deliveries.capped id
  unserved := by
    apply deliveries.unserved.cons
    intro enrolled others id same target known
    cases same
    obtain ⟨entry, found, older⟩ := behind id target
    rcases LatchedTopicForwarder.reconcileRoster_cases found with ⟨_, fresh⟩ | ⟨held, _⟩
    · exact absurd fresh known
    · apply Bool.eq_false_iff.mpr
      exact fun isServed => Nat.ne_of_lt older (deliveries.current held isServed)
  worker := trivial

theorem Deliveries.reconciled (deliveries : Deliveries options state.forwarder state.worker log)
    (books : Bookkeeping options library state) (identities : List String) :
    Deliveries options (state.reconcile options identities).forwarder (state.reconcile options identities).worker
      (.cycle (state.forwarder.enrolled identities)
        (if (state.forwarder.reconcileRoster identities).messages = [] then []
          else (state.forwarder.reconcileRoster identities).targets options identities) :: log) := by
  simp only [State.reconcile]
  split
  · exact deliveries.rosterReconciled books identities [] fun _ impossible => by cases impossible
  · have behind : ∀ id ∈ (state.forwarder.reconcileRoster identities).targets options identities, ∃ entry,
        (state.forwarder.reconcileRoster identities).participantStates id = some entry ∧
          entry.deliveredVersion < state.forwarder.version ∧
          entry.consecutiveFailures < options.maxParticipantFailures := by
      intro id target
      obtain ⟨_, entry, found, wanted⟩ := LatchedTopicForwarder.mem_peers.mp target
      simp only [LatchedTopicForwarder.behind, LatchedTopicForwarder.givenUp, Bool.and_eq_true,
        decide_eq_true_eq, Bool.not_eq_true', decide_eq_false_iff_not, Nat.not_le] at wanted
      exact ⟨entry, found, wanted⟩
    have after := deliveries.rosterReconciled books identities _ fun id target =>
      (behind id target).imp fun _ found => ⟨found.1, found.2.1⟩
    refine { after with worker := ⟨?_, ?_, ?_, ?_⟩ }
    · intro message member
      rw [LatchedTopicForwarder.retainedUpTo_version] at member
      exact List.mem_reverse.mp member
    · intro id target
      obtain ⟨entry, found, older, armed⟩ := behind id target
      have counted := (after.counted found).resolve_right (Nat.ne_of_lt older)
      exact Nat.lt_of_le_of_lt counted armed
    · exact fun newer => absurd newer (Nat.lt_irrefl _)
    · exact fun newer => absurd newer (Nat.lt_irrefl _)

theorem Deliveries.answered (deliveries : Deliveries options state.forwarder state.worker log)
    {push : Push} {id : String} {done rest : List StoredMessage} {message : StoredMessage}
    (isDue : push.Due options state.forwarder log (id :: push.targets))
    (all : done ++ message :: rest = push.messages) (sent : done ⊆ DeliveryLog.acknowledged id log) :
    Deliveries options state.forwarder (.sending push id rest) (.acknowledged id message :: log) where
  version := deliveries.version
  retained := deliveries.retained
  indexed := deliveries.indexed
  acknowledged := by
    intro other entry found
    apply List.Subset.trans (deliveries.acknowledged found)
    rw [DeliveryLog.acknowledged]
    split
    · exact List.subset_cons_self _ _
    · exact List.Subset.refl _
  counted := deliveries.counted
  current := deliveries.current
  capped := deliveries.capped
  unserved := deliveries.unserved.cons fun _ _ _ impossible => by cases impossible
  worker := by
    refine ⟨isDue.answered id message, done ++ [message], by rw [← all, List.append_assoc]; rfl, ?_⟩
    rw [DeliveryLog.acknowledged, if_pos rfl]
    intro other member
    rcases List.mem_append.mp member with earlier | last
    · exact List.mem_cons_of_mem _ (sent earlier)
    · exact List.mem_singleton.mp last ▸ List.mem_cons_self

theorem Deliveries.recorded (deliveries : Deliveries options state.forwarder state.worker log)
    (books : Bookkeeping options library state) {push : Push} {id : String} {delivered : Bool}
    (recording : state.worker = .recording push id delivered) :
    Deliveries options (state.record push id delivered).forwarder (state.record push id delivered).worker
      (.ended id delivered :: log) := by
  have consistent := books.worker
  rw [recording] at consistent
  obtain ⟨serving, _⟩ := consistent
  have dueWorker := deliveries.worker
  rw [recording] at dueWorker
  obtain ⟨isDue, sent⟩ := dueWorker
  have older : ∀ {entry}, state.forwarder.participantStates id = some entry →
      entry.deliveredVersion < push.version :=
    fun found => books.roster found ▸ serving.servedBehind
  have notNewer := serving.notNewer
  have below := isDue.below id List.mem_cons_self
  refine
    { version := deliveries.version, retained := deliveries.retained
      indexed := deliveries.indexed, acknowledged := ?_, counted := ?_, current := ?_, capped := ?_
      unserved := ?_, worker := isDue.recorded serving.taken delivered }
  · intro other entry found
    rcases LatchedTopicForwarder.record_cases found with ⟨_, held⟩ | ⟨earlier, rfl, held, updated⟩
    · exact deliveries.acknowledged held
    · cases delivered with
      | true => exact updated ▸ List.Subset.trans isDue.copied (sent rfl)
      | false =>
          have same : entry.deliveredVersion = earlier.deliveredVersion := by rw [updated]; rfl
          rw [same]
          exact deliveries.acknowledged held
  · intro other entry found
    rcases LatchedTopicForwarder.record_cases found with ⟨different, held⟩ | ⟨earlier, rfl, held, updated⟩
    · have same : DeliveryLog.failures other (.ended id delivered :: log) = DeliveryLog.failures other log := by
        simp [DeliveryLog.failures, different.symm]
      rw [same]
      exact deliveries.counted held
    · cases delivered with
      | true =>
          rcases Nat.lt_or_eq_of_le notNewer with newer | same
          · have none := isDue.rearmed newer other List.mem_cons_self
            exact .inl (by simp [DeliveryLog.failures, none])
          · exact .inr (updated ▸ same)
      | false =>
          have counted := (deliveries.counted held).resolve_right
            (Nat.ne_of_lt (Nat.lt_of_lt_of_le (older held) notNewer))
          exact .inl (by simpa [DeliveryLog.failures, updated] using counted)
  · intro other entry found isServed
    rcases LatchedTopicForwarder.record_cases found with ⟨different, held⟩ | ⟨earlier, rfl, held, updated⟩
    · simp only [DeliveryLog.served, Bool.or_eq_true, Bool.and_eq_true, decide_eq_true_eq] at isServed
      rcases isServed with ⟨⟨same, _⟩, _⟩ | before
      · exact absurd same.symm different
      · exact deliveries.current held before
    · simp only [DeliveryLog.served, Bool.or_eq_true, Bool.and_eq_true] at isServed
      rcases isServed with ⟨⟨_, succeeded⟩, started⟩ | before
      · -- a push older than the last store saw no cycle start after that store
        have current : push.version = state.forwarder.version := by
          rcases Nat.lt_or_eq_of_le notNewer with newer | same
          · rw [isDue.notStarted newer] at started
            cases started
          · exact same
        rw [updated, succeeded]
        exact current
      · exact absurd (deliveries.current held before)
          (Nat.ne_of_lt (Nat.lt_of_lt_of_le (older held) notNewer))
  · intro other
    rw [DeliveryLog.failures]
    split
    case isTrue failed => exact failed.1 ▸ below
    case isFalse => exact deliveries.capped other
  · exact deliveries.unserved.cons fun _ _ _ impossible => by cases impossible

theorem last_taken {α : Type} (done : List α) (last : α) (rest : List α) :
    ((done ++ last :: rest).take ((done ++ last :: rest).length - rest.length)).getLast? = some last := by
  have halves : done ++ last :: rest = (done ++ [last]) ++ rest := by simp
  rw [halves, List.length_append, Nat.add_sub_cancel, List.take_left]
  exact List.getLast?_concat

/-- A call of `storeOutboundMessage` accepts the message, or changes nothing that is compared. -/
theorem callback?_delivery {next : State} {index : Nat}
    (stepped : state.callback? options library index = some next) :
    (state.deliveryEvent? options library (.callback index) = none ∧
      next.forwarder = state.forwarder ∧ next.worker = state.worker) ∨
    ∃ sample, state.deliveryEvent? options library (.callback index) =
        some (.accepted (library.message sample)) ∧
      state.forwarder.holds (library.contentHash sample) = false ∧
      next.forwarder = state.forwarder.store options (library.message sample) ∧
      next.worker = state.worker := by
  unfold State.callback? at stepped
  split at stepped
  · cases stepped
  case h_2 publisher sample running =>
    cases stepped
    refine .inl ⟨by simp [State.deliveryEvent?, running], ?_⟩
    unfold State.look
    split
    · exact ⟨rfl, rfl⟩
    · split <;> exact ⟨rfl, rfl⟩
  case h_3 publisher sample running =>
    cases stepped
    simp only [State.deliveryEvent?, running, State.store]
    split
    · exact .inl ⟨rfl, rfl, rfl⟩
    · exact .inr ⟨sample, rfl, Bool.eq_false_iff.mpr ‹_›, rfl, rfl⟩

theorem Deliveries.step (deliveries : Deliveries options state.forwarder state.worker log)
    (books : Bookkeeping options library state) {label : Label} {next : State}
    (stepped : (machine options library).step? state label = some next) :
    Deliveries options next.forwarder next.worker
      ((state.deliveryEvent? options library label).toList ++ log) := by
  have transition := step_transition stepped
  have isDue := deliveries.worker
  cases label with
  | join id | leave id | receive publisher sample available => cases transition <;> exact deliveries
  | wake available =>
      cases transition with
      | woken => exact { deliveries with worker := trivial }
      | skipped => exact deliveries
  | list available => cases transition <;> exact { deliveries with worker := trivial }
  | finish =>
      cases transition
      exact { deliveries with worker := trivial }
  | callback index =>
      rcases callback?_delivery stepped with ⟨silent, forwarder, worker⟩ | ⟨sample, event, fresh, forwarder, worker⟩
      · rw [silent, forwarder, worker]
        exact deliveries
      · rw [event, forwarder, worker]
        exact deliveries.accepted books fresh
  | reconcile =>
      cases transition with
      | reconciled reconciling =>
          simp only [State.deliveryEvent?, reconciling]
          exact deliveries.reconciled books _
  | pick id =>
      cases transition with
      | @picked push _ pushing target =>
          rw [pushing] at isDue
          refine { deliveries with worker := ⟨?_, [], rfl, List.nil_subset _⟩ }
          have subset : id :: push.targets.filter (fun peer => peer ≠ id) ⊆ push.targets := by
            intro peer member
            rcases List.mem_cons.mp member with rfl | remaining
            · exact target
            · exact (List.mem_filter.mp remaining).1
          have whole : push.Due options state.forwarder log push.targets := isDue
          exact { whole.subset subset with }
  | perform =>
      cases transition with
      | performed sending =>
          rw [sending] at isDue
          obtain ⟨isDue, done, all, sent⟩ := isDue
          exact { deliveries with worker := ⟨isDue, done, _, all, sent⟩ }
      | performedAll sending =>
          rw [sending] at isDue
          obtain ⟨isDue, done, all, sent⟩ := isDue
          rw [List.append_nil] at all
          exact { deliveries with worker := ⟨isDue, fun _ => all ▸ sent⟩ }
  | answer succeeded =>
      cases transition with
      | @answered push id rest awaiting =>
          rw [awaiting] at isDue
          obtain ⟨isDue, done, message, all, sent⟩ := isDue
          have event : state.deliveryEvent? options library (.answer true) =
              some (.acknowledged id message) := by
            simp only [State.deliveryEvent?, awaiting, ← all, last_taken, Option.map_some]
          rw [event]
          exact deliveries.answered isDue all sent
      | failed awaiting =>
          rw [awaiting] at isDue
          exact { deliveries with worker := ⟨isDue.1, fun impossible => by cases impossible⟩ }
  | record =>
      cases transition with
      | recorded recording =>
          simp only [State.deliveryEvent?, recording]
          exact deliveries.recorded books recording

end Steps

theorem deliveries_of_reaches {options : Options} {library : Library} {logged : Logged}
    (reached : (Logged.machine options library).Reaches {} logged) :
    Deliveries options logged.state.forwarder logged.state.worker logged.log := by
  induction reached with
  | refl => exact deliveries_initial options
  | step before _ stepped deliveries =>
      obtain ⟨inner, log⟩ := Logged.step_cases stepped
      rw [log]
      exact deliveries.step (bookkeeping_of_reaches (Logged.state_reaches before)) inner

/-- What the members of the forwarder say at any moment. A retained message is found in the log
behind fewer newer stores than are retained, and its version counts the stores up to it. -/
structure DeliveryBookkeeping (options : Options) (logged : Logged) : Prop where
  hashes : ∀ hash, logged.state.forwarder.holds hash = true ↔
    ∃ message ∈ logged.state.forwarder.messages, message.hash = hash
  distinct : (logged.state.forwarder.messages.map StoredMessage.hash).Nodup
  bounded : logged.state.forwarder.messages.length ≤ options.maxStoredMessages
  version : logged.state.forwarder.version = (DeliveryLog.acceptedMessages logged.log).length
  retained : logged.state.forwarder.messages.reverse =
    (DeliveryLog.acceptedMessages logged.log).take options.maxStoredMessages
  acknowledged : ∀ id entry, logged.state.forwarder.participantStates id = some entry →
    ∀ newer message older, DeliveryLog.acceptedMessages logged.log = newer ++ message :: older →
      newer.length < logged.state.forwarder.messages.length → older.length + 1 ≤ entry.deliveredVersion →
        message ∈ DeliveryLog.acknowledged id logged.log
  capped : ∀ id, DeliveryLog.failures id logged.log ≤ options.maxParticipantFailures
  unserved : DeliveryLog.TargetsUnserved logged.log

/-- However the callbacks, the worker and the peers interleave. -/
theorem deliveryBookkeeping_of_reaches (options : Options) (library : Library) {logged : Logged}
    (reached : (Logged.machine options library).Reaches {} logged) : DeliveryBookkeeping options logged := by
  have deliveries := deliveries_of_reaches reached
  have length := congrArg List.length deliveries.retained
  rw [List.length_reverse, List.length_take] at length
  refine
    { hashes := ?_, distinct := deliveries.indexed.distinct
      bounded := length ▸ Nat.min_le_left _ _, version := deliveries.version
      retained := deliveries.retained, acknowledged := ?_, capped := deliveries.capped
      unserved := deliveries.unserved }
  · intro hash
    rw [LatchedTopicForwarder.holds, List.contains_iff_mem, deliveries.indexed.held, List.mem_map]
  · intro id entry found newer message older accepted isRetained earlier
    apply deliveries.acknowledged found
    have within : newer.length < options.maxStoredMessages :=
      Nat.lt_of_lt_of_le isRetained (length ▸ Nat.min_le_left _ _)
    have passed : logged.state.forwarder.version - entry.deliveredVersion ≤ newer.length := by
      rw [deliveries.version, accepted, List.length_append, List.length_cons]
      omega
    rw [LatchedTopicForwarder.retainedUpTo, deliveries.retained, accepted, List.mem_iff_getElem?]
    refine ⟨newer.length - (logged.state.forwarder.version - entry.deliveredVersion), ?_⟩
    rw [List.getElem?_drop, Nat.add_sub_cancel' passed, List.getElem?_take_of_lt within,
      List.getElem?_append_right (Nat.le_refl _), Nat.sub_self]
    rfl

/-- The second of two messages is refused by the peer, which has acknowledged the first. -/
theorem first_message_acknowledged :
    ∃ logged, (Logged.machine {} plainLibrary).Reaches {} logged ∧
      logged.state.forwarder.participantStates "peer" = some ⟨1, 1⟩ ∧
      plainLibrary.message ⟨"/mode", "std_msgs/msg/String", [1]⟩ ∈ DeliveryLog.acknowledged "peer" logged.log := by
  obtain ⟨logged, reached, found, accepted, retained⟩ :=
    Machine.Reaches.exists_of_exec (Logged.machine {} plainLibrary) {}
      ([.join "peer"] ++ receiving "/mode" [1] ++ pushing "peer" 1 ++ receiving "/mode" [2] ++
        [.wake true, .list true, .reconcile, .pick "peer", .perform, .answer true, .perform, .answer false,
          .record, .finish])
      (fun logged : Logged => logged.state.forwarder.participantStates "peer" = some ⟨1, 1⟩ ∧
        DeliveryLog.acceptedMessages logged.log =
          [plainLibrary.message ⟨"/mode", "std_msgs/msg/String", [2]⟩] ++
            plainLibrary.message ⟨"/mode", "std_msgs/msg/String", [1]⟩ :: [] ∧
        1 < logged.state.forwarder.messages.length)
      (by decide +kernel)
  have books := deliveryBookkeeping_of_reaches {} plainLibrary reached
  exact ⟨logged, reached, found, books.acknowledged "peer" _ found _ _ _ accepted retained (Nat.le_refl 1)⟩

end RosPortal.Latched
