import RosPortal.Connection.RtcSummary
import RosPortal.Latched.PushCycle

/-! Where the push worker comes to rest: each failed cycle uses up one of the attempts that a peer
has, and a peer that is served is not attempted again until something is stored. -/

set_option autoImplicit false

namespace RosPortal.Latched

open RosPortal.Connection.Diagnostics (Level DiagnosticStatus valueToString)

section Status

variable (options : Options)

/-- What `populateStatus` reads beside the locked members. -/
structure Diagnosed where
  rpcRegistered : Bool
  subscriptions : Nat
  outboundFailures : Nat
  inboundFailures : Nat

/-- A peer is counted as given up, or else as behind. -/
def peersGivenUp (forwarder : LatchedTopicForwarder) (roster : List String) : Nat :=
  (forwarder.peers roster (LatchedTopicForwarder.givenUp options)).length

def peersBehind (forwarder : LatchedTopicForwarder) (roster : List String) : Nat :=
  (forwarder.peers roster fun state =>
    !LatchedTopicForwarder.givenUp options state && forwarder.behind state).length

def statusSummary (forwarder : LatchedTopicForwarder) (roster : List String) (diagnosed : Diagnosed) :
    Level × String :=
  let rpcRegistrationFailed := options.inboundTopics ≠ [] ∧ diagnosed.rpcRegistered = false
  let topicsUndiscovered := diagnosed.subscriptions < options.outboundTopics.length
  let storageAtCapacity :=
    if options.maxStoredMessages = 0 then options.outboundTopics ≠ []
    else options.maxStoredMessages ≤ forwarder.messages.length
  let failuresDetected := 0 < diagnosed.outboundFailures ∨ 0 < diagnosed.inboundFailures
  if rpcRegistrationFailed ∨ 0 < peersGivenUp options forwarder roster then
    (.error, "Latched topic forwarding has an unavailable RPC path or peer")
  else if topicsUndiscovered ∨ storageAtCapacity ∨ 0 < peersBehind options forwarder roster ∨ failuresDetected then
    (.warn, "Latched topic forwarding is degraded")
  else (.ok, "Latched topic forwarding healthy")

/-- `roster` are the keys of the peers, one for each. -/
def populateStatus (forwarder : LatchedTopicForwarder) (roster : List String) (diagnosed : Diagnosed) :
    DiagnosticStatus where
  level := (statusSummary options forwarder roster diagnosed).1
  message := (statusSummary options forwarder roster diagnosed).2
  values :=
    [("rpc_registered", valueToString diagnosed.rpcRegistered),
      ("outbound.failures", toString diagnosed.outboundFailures),
      ("peers.total", toString roster.length),
      ("peers.behind", toString (peersBehind options forwarder roster)),
      ("peers.given_up", toString (peersGivenUp options forwarder roster)),
      ("inbound.failures", toString diagnosed.inboundFailures)]

end Status

section Cycle

variable {options : Options} {forwarder : LatchedTopicForwarder} {outcome : CycleOutcome} {id : String}
  {identities : List String}

theorem pushTargets_kept (version : Nat) (outcomes : String → List RpcOutcome) (targets : List String)
    (forwarder : LatchedTopicForwarder) :
    (pushTargets version outcomes forwarder targets).forwarder.version = forwarder.version ∧
      (pushTargets version outcomes forwarder targets).forwarder.messages = forwarder.messages := by
  induction targets generalizing forwarder with
  | nil => exact ⟨rfl, rfl⟩
  | cons target rest ih =>
      unfold pushTargets
      split
      · exact ⟨rfl, rfl⟩
      · exact ih _

/-- A cycle stores nothing. -/
theorem pushToPeers_kept (options : Options) (forwarder : LatchedTopicForwarder) (outcome : CycleOutcome) :
    (pushToPeers options forwarder outcome).forwarder.version = forwarder.version ∧
      (pushToPeers options forwarder outcome).forwarder.messages = forwarder.messages := by
  unfold pushToPeers
  split
  · exact ⟨rfl, rfl⟩
  · split
    · exact ⟨rfl, rfl⟩
    · simp only
      split
      · exact ⟨rfl, rfl⟩
      · exact pushTargets_kept _ _ _ _

/-- The peers are listed, and these are who they are. -/
structure CycleOutcome.Lists (outcome : CycleOutcome) (identities : List String) : Prop where
  available : outcome.available = true
  listed : outcome.identities = .ok identities

/-- The entry of a peer that is listed, as the cycle finds it. -/
def entryOf (forwarder : LatchedTopicForwarder) (id : String) : ParticipantState :=
  (forwarder.participantStates id).getD {}

/-- The cycles that may still attempt the peer before something is stored. -/
def attemptsLeft (options : Options) (forwarder : LatchedTopicForwarder) (id : String) : Nat :=
  if forwarder.behind (entryOf forwarder id) then
    options.maxParticipantFailures - (entryOf forwarder id).consecutiveFailures
  else 0

theorem attemptsLeft_le (forwarder : LatchedTopicForwarder) (id : String) :
    attemptsLeft options forwarder id ≤ options.maxParticipantFailures := by
  unfold attemptsLeft
  split <;> omega

theorem mem_cycleTargets (lists : outcome.Lists identities) :
    id ∈ cycleTargets options forwarder outcome ↔
      forwarder.messages ≠ [] ∧ id ∈ identities ∧ 0 < attemptsLeft options forwarder id := by
  obtain ⟨available, listed, rpc⟩ := outcome
  obtain ⟨rfl, rfl⟩ := lists
  by_cases empty : forwarder.messages = []
  · simp [cycleTargets, empty]
  · have entry : id ∈ identities →
        (forwarder.reconcileRoster identities).participantStates id = some (entryOf forwarder id) :=
      fun present => if_pos present
    simp only [cycleTargets, empty, if_false, LatchedTopicForwarder.targets, LatchedTopicForwarder.mem_peers,
      List.mem_dedup, ne_eq, not_false_eq_true, true_and]
    refine and_congr_right fun present => ?_
    rw [entry present]
    simp only [Option.some.injEq, exists_eq_left', attemptsLeft, Bool.and_eq_true, Bool.not_eq_true',
      LatchedTopicForwarder.givenUp, decide_eq_false_iff_not]
    change forwarder.behind (entryOf forwarder id) = true ∧ _ ↔ _
    split_ifs with late
    · simp only [late, true_and]
      omega
    · simp [late]

theorem entryOf_cycle (serves : ServesEveryPeer options forwarder outcome) (lists : outcome.Lists identities)
    (present : id ∈ identities) :
    entryOf (pushToPeers options forwarder outcome).forwarder id =
      if id ∈ cycleTargets options forwarder outcome then
        served forwarder.version ((rpcOutcomes forwarder outcome id).all RpcOutcome.succeeded) (entryOf forwarder id)
      else entryOf forwarder id := by
  have found : (roster forwarder outcome).participantStates id = some (entryOf forwarder id) := by
    obtain ⟨available, listed, rpc⟩ := outcome
    obtain ⟨rfl, rfl⟩ := lists
    exact if_pos present
  split_ifs with target
  · rw [entryOf, serves.targeted id target, found]
    rfl
  · rw [entryOf, serves.others id target, found]
    rfl

/-- A cycle that attempts the peer uses up an attempt, or all of them if the peer is served. -/
theorem attemptsLeft_cycle (serves : ServesEveryPeer options forwarder outcome) (lists : outcome.Lists identities)
    (present : id ∈ identities) (stored : forwarder.messages ≠ []) :
    attemptsLeft options (pushToPeers options forwarder outcome).forwarder id ≤
      attemptsLeft options forwarder id - 1 := by
  have kept := (pushToPeers_kept options forwarder outcome).1
  have targeted : id ∈ cycleTargets options forwarder outcome ↔ 0 < attemptsLeft options forwarder id := by
    simp [mem_cycleTargets lists, stored, present]
  rw [attemptsLeft, entryOf_cycle serves lists present, LatchedTopicForwarder.behind, kept]
  by_cases attempted : 0 < attemptsLeft options forwarder id
  · rw [if_pos (targeted.mpr attempted)]
    cases (rpcOutcomes forwarder outcome id).all RpcOutcome.succeeded with
    | true => simp [served]
    | false =>
        simp only [served, Bool.false_eq_true, if_false, attemptsLeft, LatchedTopicForwarder.behind]
        by_cases late : (entryOf forwarder id).deliveredVersion < forwarder.version
        · simp only [late, decide_true, if_true]
          omega
        · simp [late]
  · rw [if_neg (mt targeted.mp attempted)]
    change attemptsLeft options forwarder id ≤ _
    omega

theorem attemptsLeft_eq_zero_iff :
    attemptsLeft options forwarder id = 0 ↔ forwarder.behind (entryOf forwarder id) = false ∨
      LatchedTopicForwarder.givenUp options (entryOf forwarder id) = true := by
  rw [attemptsLeft, LatchedTopicForwarder.givenUp, decide_eq_true_eq]
  split_ifs with late
  · simp only [late, Bool.true_eq_false, false_or]
    omega
  · simp [late]

/-- A peer that has the current version keeps it, and one whose RPCs all succeed gets it. -/
theorem current_cycle (serves : ServesEveryPeer options forwarder outcome) (lists : outcome.Lists identities)
    (present : id ∈ identities) (stored : forwarder.messages ≠ [])
    (current : forwarder.behind (entryOf forwarder id) = false ∨
      LatchedTopicForwarder.givenUp options (entryOf forwarder id) = false ∧
        ∀ index, (outcome.rpc id index).succeeded = true) :
    let after := (pushToPeers options forwarder outcome).forwarder
    after.behind (entryOf after id) = false := by
  intro after
  have kept : after.version = forwarder.version := (pushToPeers_kept options forwarder outcome).1
  rw [entryOf_cycle serves lists present, LatchedTopicForwarder.behind, kept]
  split_ifs with target
  · rcases current with current | ⟨_, answered⟩
    · have none : attemptsLeft options forwarder id = 0 := attemptsLeft_eq_zero_iff.mpr (.inl current)
      have some := ((mem_cycleTargets lists).mp target).2.2
      omega
    · have all : (rpcOutcomes forwarder outcome id).all RpcOutcome.succeeded = true := by
        simp [rpcOutcomes, answered]
      simp [all, served]
  · rcases current with current | ⟨attempted, _⟩
    · exact current
    · have none : attemptsLeft options forwarder id = 0 := by
        simpa [mem_cycleTargets lists, stored, present] using target
      rcases attemptsLeft_eq_zero_iff.mp none with current | givenUp
      · exact current
      · cases attempted.symm.trans givenUp

end Cycle

section Rest

variable {options : Options} {forwarder : LatchedTopicForwarder} {identities : List String}

/-- A pass of the worker before which nothing is stored and in which the peers are these. -/
structure WakeUp.Quiet (wakeUp : WakeUp) (identities : List String) : Prop where
  stored : wakeUp.stored = []
  lists : wakeUp.outcome.Lists identities

theorem WakeUp.Quiet.start {wakeUp : WakeUp} (quiet : wakeUp.Quiet identities) (forwarder : LatchedTopicForwarder) :
    wakeUp.start options forwarder = forwarder := by
  rw [WakeUp.start, quiet.stored]
  rfl

theorem runWorker_quiet {wakeUps : List WakeUp} (quiet : ∀ wakeUp ∈ wakeUps, wakeUp.Quiet identities)
    (serves : EveryCycle options (ServesEveryPeer options) forwarder wakeUps) (stored : forwarder.messages ≠ [])
    {id : String} (present : id ∈ identities) :
    (runWorker options forwarder wakeUps).1.messages = forwarder.messages ∧
      attemptsLeft options (runWorker options forwarder wakeUps).1 id ≤
        attemptsLeft options forwarder id - wakeUps.length := by
  induction wakeUps generalizing forwarder with
  | nil => exact ⟨rfl, Nat.le_refl _⟩
  | cons wakeUp rest ih =>
      obtain ⟨first, later⟩ := List.forall_mem_cons.mp quiet
      obtain ⟨here, after⟩ := serves
      rw [first.start] at here after
      have kept := (pushToPeers_kept options forwarder wakeUp.outcome).2
      have used := attemptsLeft_cycle here first.lists present stored
      obtain ⟨same, left⟩ := ih later after (kept ▸ stored)
      simp only [runWorker, first.start, here.caught]
      refine ⟨same.trans kept, Nat.le_trans left ?_⟩
      rw [List.length_cons]
      omega

theorem runWorker_current {wakeUps : List WakeUp} (quiet : ∀ wakeUp ∈ wakeUps, wakeUp.Quiet identities)
    (serves : EveryCycle options (ServesEveryPeer options) forwarder wakeUps) (stored : forwarder.messages ≠ [])
    {id : String} (present : id ∈ identities) (current : forwarder.behind (entryOf forwarder id) = false) :
    let rest := (runWorker options forwarder wakeUps).1
    rest.behind (entryOf rest id) = false := by
  induction wakeUps generalizing forwarder with
  | nil => exact current
  | cons wakeUp rest ih =>
      obtain ⟨first, later⟩ := List.forall_mem_cons.mp quiet
      obtain ⟨here, after⟩ := serves
      rw [first.start] at here after
      have kept := (pushToPeers_kept options forwarder wakeUp.outcome).2
      simp only [runWorker, first.start, here.caught]
      exact ih later after (kept ▸ stored) (current_cycle here first.lists present stored (.inl current))

/-- The worker is at rest after as many quiet cycles as a peer has attempts: nobody is attempted in
a further one, each peer has the current version or is given up, none is shown as behind, and a
peer whose RPCs succeeded has the current version after the first of the cycles. -/
theorem at_rest_after_quiet_cycles {wakeUps : List WakeUp} (stored : forwarder.messages ≠ [])
    (quiet : ∀ wakeUp ∈ wakeUps, wakeUp.Quiet identities)
    (nothing : EveryCycle options (NothingThrown options) forwarder wakeUps) :
    let rest := (runWorker options forwarder wakeUps).1
    (options.maxParticipantFailures ≤ wakeUps.length →
      (∀ outcome : CycleOutcome, outcome.Lists identities → (pushToPeers options rest outcome).attempted = []) ∧
        (∀ id ∈ identities, rest.behind (entryOf rest id) = false ∨
          LatchedTopicForwarder.givenUp options (entryOf rest id) = true) ∧
        peersBehind options rest identities = 0) ∧
      ∀ id ∈ identities, LatchedTopicForwarder.givenUp options (entryOf forwarder id) = false → ∀ wakeUp ∈ wakeUps.head?,
        (∀ index, (wakeUp.outcome.rpc id index).succeeded = true) → rest.behind (entryOf rest id) = false := by
  intro rest
  have serves : EveryCycle options (ServesEveryPeer options) forwarder wakeUps :=
    (everyCycle_congr (fun _ _ => servesEveryPeer_iff) wakeUps).mpr nothing
  constructor
  · intro enough
    have spent : ∀ id ∈ identities, attemptsLeft options rest id = 0 := by
      intro id present
      have left := (runWorker_quiet quiet serves stored present).2
      have most : attemptsLeft options forwarder id ≤ options.maxParticipantFailures := attemptsLeft_le forwarder id
      change attemptsLeft options rest id ≤ _ at left
      omega
    have settled : ∀ id ∈ identities, rest.behind (entryOf rest id) = false ∨
        LatchedTopicForwarder.givenUp options (entryOf rest id) = true :=
      fun id present => attemptsLeft_eq_zero_iff.mp (spent id present)
    refine ⟨?_, settled, ?_⟩
    · intro outcome lists
      have none : cycleTargets options rest outcome = [] := by
        rw [List.eq_nil_iff_forall_not_mem]
        intro id target
        obtain ⟨_, present, left⟩ := (mem_cycleTargets lists).mp target
        rw [spent id present] at left
        exact Nat.lt_irrefl 0 left
      have fine : NothingThrown options rest outcome :=
        ⟨fun _ _ failed => (nomatch lists.listed.symm.trans failed), fun id target => by simp [none] at target⟩
      rw [(servesEveryPeer_iff.mpr fine).attempted, none]
    · rw [peersBehind, List.length_eq_zero_iff, List.eq_nil_iff_forall_not_mem]
      intro id counted
      obtain ⟨present, entry, found, behind⟩ := LatchedTopicForwarder.mem_peers.mp counted
      have same : entryOf rest id = entry := by rw [entryOf, found]; rfl
      rcases settled id present with current | givenUp
      · simp [← same, current] at behind
      · simp [← same, givenUp] at behind
  · intro id present attempted wakeUp first answered
    cases wakeUps with
    | nil => cases first
    | cons head tail =>
        obtain rfl := Option.some.inj first
        obtain ⟨firstQuiet, later⟩ := List.forall_mem_cons.mp quiet
        obtain ⟨here, after⟩ := serves
        rw [firstQuiet.start] at here after
        have kept := (pushToPeers_kept options forwarder head.outcome).2
        have current := current_cycle here firstQuiet.lists present stored (.inr ⟨attempted, answered⟩)
        simp only [rest, runWorker, firstQuiet.start, here.caught]
        exact runWorker_current later after (kept ▸ stored) present current

theorem everyCycle_of_answers {wakeUps : List WakeUp} (quiet : ∀ wakeUp ∈ wakeUps, wakeUp.Quiet identities)
    (answers : ∀ wakeUp ∈ wakeUps, ∀ id index what, wakeUp.outcome.rpc id index ≠ .throws what) :
    EveryCycle options (NothingThrown options) forwarder wakeUps := by
  induction wakeUps generalizing forwarder with
  | nil => trivial
  | cons wakeUp rest ih =>
      obtain ⟨first, later⟩ := List.forall_mem_cons.mp quiet
      obtain ⟨answered, others⟩ := List.forall_mem_cons.mp answers
      refine ⟨⟨fun _ _ failed => (nomatch first.lists.listed.symm.trans failed), ?_⟩, ih later others⟩
      intro id _ before what after split
      have thrown : .throws what ∈ rpcOutcomes (wakeUp.start options forwarder) wakeUp.outcome id :=
        split ▸ List.mem_append_right before List.mem_cons_self
      obtain ⟨index, _, same⟩ := List.mem_map.mp thrown
      exact absurd same (answered id index what)

/-- One peer answers and one does not. -/
def halfAnswered : WakeUp where
  outcome :=
    { identities := .ok ["robot", "operator"]
      rpc := fun id _ => if id = "robot" then .response (some true) else .noResponse }

theorem at_rest_after_two_failures :
    let options : Options := { maxParticipantFailures := 2 }
    let forwarder := LatchedTopicForwarder.store options {} ⟨1, ⟨"/map", "nav_msgs/msg/OccupancyGrid", "AQID"⟩⟩
    let rest := (runWorker options forwarder [halfAnswered, halfAnswered]).1
    peersBehind options rest ["robot", "operator"] = 0 ∧ rest.behind (entryOf rest "robot") = false ∧
      peersGivenUp options rest ["robot", "operator"] = 1 := by
  intro options forwarder rest
  have stored : forwarder.messages ≠ [] := nofun
  have quiet : ∀ wakeUp ∈ [halfAnswered, halfAnswered], wakeUp.Quiet ["robot", "operator"] := by
    simp only [List.forall_mem_cons]
    exact ⟨⟨rfl, rfl, rfl⟩, ⟨rfl, rfl, rfl⟩, nofun⟩
  have answers : ∀ wakeUp ∈ [halfAnswered, halfAnswered], ∀ id index what,
      wakeUp.outcome.rpc id index ≠ .throws what := by
    intro wakeUp listed id index what thrown
    obtain rfl : wakeUp = halfAnswered := by simpa using listed
    simp only [halfAnswered] at thrown
    split at thrown <;> cases thrown
  have nothing : EveryCycle options (NothingThrown options) forwarder [halfAnswered, halfAnswered] :=
    everyCycle_of_answers quiet answers
  have atRest := at_rest_after_quiet_cycles stored quiet nothing
  exact ⟨(atRest.1 (Nat.le_refl 2)).2.2, atRest.2 "robot" (by decide) rfl halfAnswered rfl fun _ => rfl,
    by decide +kernel⟩

end Rest

end RosPortal.Latched
