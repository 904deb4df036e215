import Mathlib.Data.List.Dedup
import RosPortal.Latched.Forwarder

/-! The push worker and the exceptions of the calls it makes. A peer whose RPC throws takes the
cycle with it, and the worker. -/

set_option autoImplicit false

namespace RosPortal.Latched

/-- What comes of one `perform_rpc`: a response, whose `success` field is none when the response
cannot be read, no response, or an exception. -/
inductive RpcOutcome where
  | response (success : Option Bool)
  | noResponse
  | throws (what : String)
deriving DecidableEq, Repr

/-- `rpcSucceeded`, which takes a response that cannot be read for a failure. -/
def RpcOutcome.succeeded : RpcOutcome → Bool
  | .response success => success.getD false
  | .noResponse | .throws _ => false

/-- The RPCs to one target, up to the first that does not succeed: whether all did, or the
exception. -/
def performAll : List RpcOutcome → Except String Bool
  | [] => .ok true
  | .throws what :: _ => .error what
  | outcome :: rest => if outcome.succeeded then performAll rest else .ok false

/-- What a cycle leaves: the forwarder, the targets that were attempted, and an exception that
was not caught. -/
structure Cycle where
  forwarder : LatchedTopicForwarder
  attempted : List String := []
  escaped : Option String := none

/-- The loop over the targets; `outcomes` are those of the RPCs to a target, message by message. -/
def pushTargets (version : Nat) (outcomes : String → List RpcOutcome) (forwarder : LatchedTopicForwarder) :
    List String → Cycle
  | [] => { forwarder }
  | id :: rest =>
      match performAll (outcomes id) with
      | .error what => { forwarder, attempted := [id], escaped := some what }
      | .ok delivered =>
          let cycle := pushTargets version outcomes (forwarder.record id version delivered) rest
          { cycle with attempted := id :: cycle.attempted }

structure CycleOutcome where
  available : Bool := true
  identities : Except String (List String)
  rpc : String → Nat → RpcOutcome

section Worker

variable (options : Options)

def pushToPeers (forwarder : LatchedTopicForwarder) (outcome : CycleOutcome) : Cycle :=
  if outcome.available = false then { forwarder }
  else
    match outcome.identities with
    | .error what => { forwarder, escaped := some what }
    | .ok identities =>
        let reconciled := forwarder.reconcileRoster identities
        if reconciled.messages = [] then { forwarder := reconciled }
        else
          pushTargets reconciled.version
            (fun id => (List.range reconciled.messages.length).map (outcome.rpc id)) reconciled
            (reconciled.targets options identities.dedup)

/-- A pass of the loop in `runWorker`: what callbacks have stored before, and the cycle. -/
structure WakeUp where
  stored : List StoredMessage := []
  outcome : CycleOutcome

def WakeUp.start (wakeUp : WakeUp) (forwarder : LatchedTopicForwarder) : LatchedTopicForwarder :=
  wakeUp.stored.foldl (LatchedTopicForwarder.store options) forwarder

/-- The worker until it is stopped or an exception leaves it. -/
def runWorker (forwarder : LatchedTopicForwarder) : List WakeUp → LatchedTopicForwarder × Option String
  | [] => (forwarder, none)
  | wakeUp :: rest =>
      let cycle := pushToPeers options (wakeUp.start options forwarder) wakeUp.outcome
      match cycle.escaped with
      | some what => (cycle.forwarder, some what)
      | none => runWorker cycle.forwarder rest

/-! What a cycle is for: every peer is served on its own account. -/

/-- The roster of a cycle and its targets; there are none unless the peers are listed. -/
def roster (forwarder : LatchedTopicForwarder) (outcome : CycleOutcome) : LatchedTopicForwarder :=
  match outcome.available, outcome.identities with
  | true, .ok identities => forwarder.reconcileRoster identities
  | _, _ => forwarder

def cycleTargets (forwarder : LatchedTopicForwarder) (outcome : CycleOutcome) : List String :=
  match outcome.available, outcome.identities with
  | true, .ok identities =>
      if forwarder.messages = [] then []
      else (forwarder.reconcileRoster identities).targets options identities.dedup
  | _, _ => []

def rpcOutcomes (forwarder : LatchedTopicForwarder) (outcome : CycleOutcome) (id : String) :
    List RpcOutcome :=
  (List.range forwarder.messages.length).map (outcome.rpc id)

/-- The entry of a peer after its RPCs, which depends on no other peer. -/
def served (version : Nat) (completed : Bool) (entry : ParticipantState) : ParticipantState :=
  if completed then { deliveredVersion := version, consecutiveFailures := 0 }
  else { entry with consecutiveFailures := entry.consecutiveFailures + 1 }

/-- All targets are attempted, each peer's bookkeeping is settled by its own RPCs, and no
exception leaves the cycle. -/
structure ServesEveryPeer (forwarder : LatchedTopicForwarder) (outcome : CycleOutcome) : Prop where
  attempted : (pushToPeers options forwarder outcome).attempted = cycleTargets options forwarder outcome
  targeted : ∀ id ∈ cycleTargets options forwarder outcome,
    (pushToPeers options forwarder outcome).forwarder.participantStates id =
      ((roster forwarder outcome).participantStates id).map
        (served forwarder.version ((rpcOutcomes forwarder outcome id).all RpcOutcome.succeeded))
  others : ∀ id ∉ cycleTargets options forwarder outcome,
    (pushToPeers options forwarder outcome).forwarder.participantStates id =
      (roster forwarder outcome).participantStates id
  caught : (pushToPeers options forwarder outcome).escaped = none

/-- No call that the cycle makes throws; the RPCs to a target end with the first that fails. -/
structure NothingThrown (forwarder : LatchedTopicForwarder) (outcome : CycleOutcome) : Prop where
  listing : outcome.available = true → ∀ what, outcome.identities ≠ .error what
  performing : ∀ id ∈ cycleTargets options forwarder outcome, ∀ before what after,
    rpcOutcomes forwarder outcome id = before ++ .throws what :: after →
      ∃ failed ∈ before, failed.succeeded = false

def EveryCycle (holds : LatchedTopicForwarder → CycleOutcome → Prop) (forwarder : LatchedTopicForwarder) :
    List WakeUp → Prop
  | [] => True
  | wakeUp :: rest =>
      holds (wakeUp.start options forwarder) wakeUp.outcome ∧
        EveryCycle holds (pushToPeers options (wakeUp.start options forwarder) wakeUp.outcome).forwarder rest

end Worker

section Targets

variable {options : Options}

theorem performAll_cons {first : RpcOutcome} (success : first.succeeded = true) (rest : List RpcOutcome) :
    performAll (first :: rest) = performAll rest := by
  cases first with
  | response envelope => simp [performAll, success]
  | noResponse | throws what => cases success

theorem performAll_cases (outcomes : List RpcOutcome) :
    (performAll outcomes = .ok (outcomes.all RpcOutcome.succeeded) ∧
        ∀ before what after, outcomes = before ++ .throws what :: after →
          ∃ failed ∈ before, failed.succeeded = false) ∨
      ∃ before what after, performAll outcomes = .error what ∧
        outcomes = before ++ .throws what :: after ∧ ∀ outcome ∈ before, outcome.succeeded = true := by
  induction outcomes with
  | nil => exact .inl ⟨rfl, fun before what after split => by simp at split⟩
  | cons first rest ih =>
      cases success : first.succeeded with
      | true =>
          rw [performAll_cons success]
          rcases ih with ⟨performed, past⟩ | ⟨before, what, after, thrown, split, earlier⟩
          · refine .inl ⟨by rw [performed, List.all_cons, success, Bool.true_and], ?_⟩
            intro before what after split
            cases before with
            | nil =>
                cases split
                cases success
            | cons head before =>
                cases split
                obtain ⟨failed, member, failure⟩ := past before what after rfl
                exact ⟨failed, List.mem_cons_of_mem _ member, failure⟩
          · refine .inr ⟨first :: before, what, after, thrown, by rw [split, List.cons_append], ?_⟩
            intro outcome member
            rcases List.mem_cons.mp member with rfl | later
            · exact success
            · exact earlier outcome later
      | false =>
          have stops : ∀ before what after, first :: rest = before ++ .throws what :: after →
              before ≠ [] → ∃ failed ∈ before, failed.succeeded = false := by
            intro before what after split filled
            cases before with
            | nil => exact absurd rfl filled
            | cons head before =>
                cases split
                exact ⟨first, List.mem_cons_self, success⟩
          cases first with
          | throws what => exact .inr ⟨[], what, rest, rfl, rfl, fun outcome member => by cases member⟩
          | response envelope | noResponse =>
              refine .inl ⟨by simp [performAll, success], ?_⟩
              intro before what after split
              refine stops before what after split ?_
              rintro rfl
              cases split

theorem performAll_ok_iff (outcomes : List RpcOutcome) :
    performAll outcomes = .ok (outcomes.all RpcOutcome.succeeded) ↔
      ∀ before what after, outcomes = before ++ .throws what :: after →
        ∃ failed ∈ before, failed.succeeded = false := by
  rcases performAll_cases outcomes with ⟨performed, past⟩ | ⟨before, what, after, thrown, split, earlier⟩
  · exact ⟨fun _ => past, fun _ => performed⟩
  · rw [thrown]
    constructor
    · intro impossible
      cases impossible
    · intro past
      obtain ⟨failed, member, failure⟩ := past before what after split
      rw [earlier failed member] at failure
      cases failure

theorem participantStates_record (forwarder : LatchedTopicForwarder) (id other : String) (version : Nat)
    (delivered : Bool) :
    (forwarder.record id version delivered).participantStates other =
      if other = id then (forwarder.participantStates id).map (served version delivered)
      else forwarder.participantStates other := by
  simp only [LatchedTopicForwarder.record, Function.update_apply]
  rfl

theorem pushTargets_of_ok (version : Nat) (outcomes : String → List RpcOutcome) {targets : List String}
    (forwarder : LatchedTopicForwarder) (distinct : targets.Nodup)
    (fine : ∀ id ∈ targets, performAll (outcomes id) = .ok ((outcomes id).all RpcOutcome.succeeded)) :
    let cycle := pushTargets version outcomes forwarder targets
    cycle.attempted = targets ∧ cycle.escaped = none ∧
      ∀ id, cycle.forwarder.participantStates id =
        if id ∈ targets then
          (forwarder.participantStates id).map
            (served version ((outcomes id).all RpcOutcome.succeeded))
        else forwarder.participantStates id := by
  induction targets generalizing forwarder with
  | nil => exact ⟨rfl, rfl, fun id => by simp [pushTargets]⟩
  | cons target rest ih =>
      obtain ⟨once, distinct⟩ := List.nodup_cons.mp distinct
      obtain ⟨attempted, escaped, entries⟩ :=
        ih (forwarder.record target version ((outcomes target).all RpcOutcome.succeeded)) distinct
          fun id member => fine id (List.mem_cons_of_mem _ member)
      simp only [pushTargets, fine target List.mem_cons_self]
      refine ⟨by rw [attempted], escaped, ?_⟩
      intro id
      rw [entries id, participantStates_record]
      by_cases here : id = target
      · subst here
        simp [once]
      · simp [here]

theorem pushTargets_escapes {version : Nat} {outcomes : String → List RpcOutcome} {targets : List String}
    (forwarder : LatchedTopicForwarder) {id : String} (target : id ∈ targets)
    (throws : performAll (outcomes id) ≠ .ok ((outcomes id).all RpcOutcome.succeeded)) :
    (pushTargets version outcomes forwarder targets).escaped ≠ none := by
  induction targets generalizing forwarder with
  | nil => cases target
  | cons first rest ih =>
      rcases performAll_cases (outcomes first) with ⟨performed, _⟩ | ⟨_, what, _, thrown, _, _⟩
      · have later : id ∈ rest := by
          rcases List.mem_cons.mp target with rfl | later
          · exact absurd performed throws
          · exact later
        simp only [pushTargets, performed]
        exact ih (forwarder.record first version ((outcomes first).all RpcOutcome.succeeded)) later
      · simp [pushTargets, thrown]

end Targets

section Cycles

variable {options : Options} {forwarder : LatchedTopicForwarder} {outcome : CycleOutcome}

theorem servesEveryPeer_iff :
    ServesEveryPeer options forwarder outcome ↔ NothingThrown options forwarder outcome := by
  obtain ⟨available, identities, rpc⟩ := outcome
  cases available with
  | false =>
      constructor
      · intro _
        exact ⟨fun impossible => (by cases impossible), fun id member => by simp [cycleTargets] at member⟩
      · intro _
        exact ⟨rfl, fun id member => by simp [cycleTargets] at member, fun _ _ => rfl, rfl⟩
  | true =>
      cases identities with
      | error what =>
          constructor
          · intro serves
            have caught := serves.caught
            simp [pushToPeers] at caught
          · intro nothing
            exact absurd rfl (nothing.listing rfl what)
      | ok identities =>
          have listing : true = true → ∀ what, Except.ok identities ≠ (.error what : Except String _) :=
            fun _ what impossible => by cases impossible
          by_cases empty : forwarder.messages = []
          · have targets : cycleTargets options forwarder ⟨true, .ok identities, rpc⟩ = [] := by
              simp [cycleTargets, empty]
            have run : pushToPeers options forwarder ⟨true, .ok identities, rpc⟩ =
                { forwarder := forwarder.reconcileRoster identities } := by
              simp [pushToPeers, empty]
            constructor
            · intro _
              exact ⟨listing, fun id member => by simp [targets] at member⟩
            · intro _
              refine ⟨?_, ?_, ?_, ?_⟩
              · rw [run, targets]
              · intro id member
                simp [targets] at member
              · intro id _
                rw [run]
                rfl
              · rw [run]
          · have targets : cycleTargets options forwarder ⟨true, .ok identities, rpc⟩ =
                (forwarder.reconcileRoster identities).targets options identities.dedup := by
              simp [cycleTargets, empty]
            have run : pushToPeers options forwarder ⟨true, .ok identities, rpc⟩ =
                pushTargets forwarder.version (rpcOutcomes forwarder ⟨true, .ok identities, rpc⟩)
                  (forwarder.reconcileRoster identities)
                  ((forwarder.reconcileRoster identities).targets options identities.dedup) := by
              simp [pushToPeers, empty]
              rfl
            have distinct : ((forwarder.reconcileRoster identities).targets options identities.dedup).Nodup :=
              (List.nodup_dedup identities).filter _
            constructor
            · intro serves
              refine ⟨listing, ?_⟩
              intro id member
              rw [← performAll_ok_iff]
              by_contra throws
              have caught := serves.caught
              rw [run] at caught
              rw [targets] at member
              exact pushTargets_escapes _ member throws caught
            · intro nothing
              obtain ⟨attempted, escaped, entries⟩ := pushTargets_of_ok forwarder.version
                (rpcOutcomes forwarder ⟨true, .ok identities, rpc⟩)
                (forwarder.reconcileRoster identities) distinct fun id member =>
                  (performAll_ok_iff _).mpr (nothing.performing id (targets ▸ member))
              refine ⟨?_, ?_, ?_, ?_⟩
              · rw [run, targets, attempted]
              · intro id member
                rw [run, entries id, if_pos (targets ▸ member)]
                rfl
              · intro id excluded
                rw [run, entries id, if_neg (targets ▸ excluded)]
                rfl
              · rw [run, escaped]

theorem everyCycle_congr {first second : LatchedTopicForwarder → CycleOutcome → Prop}
    (same : ∀ forwarder outcome, first forwarder outcome ↔ second forwarder outcome)
    (wakeUps : List WakeUp) :
    EveryCycle options first forwarder wakeUps ↔ EveryCycle options second forwarder wakeUps := by
  induction wakeUps generalizing forwarder with
  | nil => exact Iff.rfl
  | cons wakeUp rest ih => exact and_congr (same _ _) ih

theorem runWorker_of_serves {wakeUps : List WakeUp}
    (serves : EveryCycle options (ServesEveryPeer options) forwarder wakeUps) :
    (runWorker options forwarder wakeUps).2 = none := by
  induction wakeUps generalizing forwarder with
  | nil => rfl
  | cons wakeUp rest ih =>
      obtain ⟨here, later⟩ := serves
      simp only [runWorker, here.caught]
      exact ih later

end Cycles

/-- The push worker serves every peer in all of its cycles, and no exception leaves it, exactly
when none of its calls throws. -/
theorem worker_serves_every_peer_iff (options : Options) (forwarder : LatchedTopicForwarder)
    (wakeUps : List WakeUp) :
    (EveryCycle options (ServesEveryPeer options) forwarder wakeUps ∧
        (runWorker options forwarder wakeUps).2 = none) ↔
      EveryCycle options (NothingThrown options) forwarder wakeUps := by
  rw [← everyCycle_congr fun _ _ => servesEveryPeer_iff]
  constructor
  · exact fun both => both.1
  · exact fun serves => ⟨serves, runWorker_of_serves serves⟩

/-- The RPC to the first of two peers throws, and the second is not attempted. -/
theorem throwing_peer_stops_worker :
    ¬ ∀ (options : Options) (forwarder : LatchedTopicForwarder) (wakeUps : List WakeUp),
      EveryCycle options (ServesEveryPeer options) forwarder wakeUps ∧
        (runWorker options forwarder wakeUps).2 = none := by
  intro serves
  have caught := (serves {} {} [{
    stored := [⟨1, ⟨"/map", "nav_msgs/msg/OccupancyGrid", "AQID"⟩⟩]
    outcome :=
      { identities := .ok ["robot", "operator"]
        rpc := fun id _ => if id = "robot" then .throws "participant handle is invalid" else .response (some true) } }]).2
  exact absurd caught (by decide +kernel)

end RosPortal.Latched
