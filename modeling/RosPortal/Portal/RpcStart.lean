import RosPortal.Portal.RpcRegistration

/-! A start that no other thread interferes with. Taken through its initialisers and
registrations one at a time, it makes of the node what `startRoomComponents` makes of it
in one step, for the outcomes that its initialisers had. -/

set_option autoImplicit false

namespace RosPortal.Portal.Rpc

open Interleaving Connection

/-- A choice of a thread that is under way. -/
def Choice.own : Choice → Bool
  | .call _ => false
  | _ => true

/-- A thread comes from a point of a start to its end and leaves the node so, while it makes
no other call and no other thread takes a step. -/
def Ends (options : Options) (session : Session) (control : Control) (node : Node) : Prop :=
  ∃ choices final, (∀ choice ∈ choices, choice.own = true) ∧
    (program options).solo? session control choices = some (final, .idle) ∧ final.node = node

/-! What a start still makes of the node from each of its points on, given the outcomes
that are left. -/

def fromVideoSources (node : Node) (outcome : StartOutcome) : Node :=
  { node with videoSourceManager := outcome.videoSources, roomComponentsStarted := true }

def fromLatched (options : Options) (node : Node) (outcome : StartOutcome) : Node :=
  ((node.initializeLatchedTopicForwarder options outcome.latchedTopicForwarder).map fun initialized =>
    fromVideoSources initialized outcome).getD node.stopRoomComponents

def fromCliManager (options : Options) (node : Node) (outcome : StartOutcome) : Node :=
  if outcome.cliManager then fromLatched options { node with cliManager := true } outcome
  else node.stopRoomComponents

def fromForwarder (options : Options) (node : Node) (outcome : StartOutcome) : Node :=
  ((node.ensureTopicForwarder outcome.topicForwarder).map fun ensured =>
    fromCliManager options ensured outcome).getD node.stopRoomComponents

/-- The initialisers in sequence, each with what is left after it. -/
theorem getD_initializeRoomComponents (options : Options) {node prepared : Node} {outcome : StartOutcome}
    (prepares : node.prepareRoomSession outcome.prepared = some prepared) :
    (node.initializeRoomComponents options outcome).getD node.stopRoomComponents =
      fromForwarder options prepared outcome := by
  obtain rfl := Node.prepareRoomSession_eq prepares
  unfold Node.initializeRoomComponents fromForwarder
  rw [prepares]
  simp only [Option.bind_eq_bind, Option.bind_some]
  cases ensures : Node.ensureTopicForwarder { node with roomSessionPrepared := true } outcome.topicForwarder with
  | none => rfl
  | some ensured =>
      obtain rfl := Node.ensureTopicForwarder_eq ensures
      unfold fromCliManager fromLatched
      simp only [Option.bind_some, Option.map_some, Option.getD_some, Node.initializeCliManager]
      cases outcome.cliManager with
      | false => rfl
      | true =>
          simp only [if_true, Option.bind_some]
          generalize Node.initializeLatchedTopicForwarder options _ _ = initialized
          cases initialized <;> rfl

section Points

variable {options : Options} {session : Session} {node : Node}

theorem ends_idle : Ends options session .idle node ↔ session.node = node := by
  constructor
  · intro ends
    obtain ⟨choices, final, own, ran, rfl⟩ := ends
    cases choices with
    | nil =>
        cases ran
        rfl
    | cons choice choices =>
        cases choice with
        | call call => cases own _ List.mem_cons_self
        | proceed | polled | outcome => cases ran
  · rintro rfl
    exact ⟨[], session, fun _ listed => absurd listed List.not_mem_nil, rfl, rfl⟩

/-- Elsewhere it takes a step of its own and goes on from there. -/
theorem ends_iff {control : Control} (busy : control ≠ .idle) :
    Ends options session control node ↔ ∃ choice middle between, choice.own = true ∧
      advance options session control choice = some (middle, between) ∧ Ends options middle between node := by
  constructor
  · intro ends
    obtain ⟨choices, final, own, ran, same⟩ := ends
    cases choices with
    | nil =>
        cases ran
        exact absurd rfl busy
    | cons choice choices =>
        obtain ⟨⟨middle, between⟩, advanced, rest⟩ := Option.bind_eq_some_iff.mp ran
        exact ⟨choice, middle, between, own choice List.mem_cons_self, advanced, choices, final,
          fun later listed => own later (List.mem_cons_of_mem _ listed), rest, same⟩
  · intro goes
    obtain ⟨choice, middle, between, first, advanced, choices, final, own, ran, same⟩ := goes
    refine ⟨choice :: choices, final, ?_, Option.bind_eq_some_iff.mpr ⟨_, advanced, ran⟩, same⟩
    exact List.forall_mem_cons.mpr ⟨first, own⟩

theorem ends_videoSources :
    Ends options session .videoSources node ↔ ∃ outcome, fromVideoSources session.node outcome = node := by
  refine (ends_iff Control.noConfusion).trans ⟨?_, ?_⟩
  · intro ends
    obtain ⟨choice, middle, between, -, advanced, rest⟩ := ends
    cases choice <;> cases advanced
    case outcome.refl success => exact ⟨{ videoSources := success }, ends_idle.mp rest⟩
  · intro made
    obtain ⟨outcome, same⟩ := made
    exact ⟨.outcome outcome.videoSources, _, _, rfl, rfl, ends_idle.mpr same⟩

theorem ends_registeringLatched :
    Ends options session .registeringLatched node ↔
      ∃ outcome, fromVideoSources { session.node with latchedTopicForwarder := some {} } outcome = node := by
  have same : (session.rpcRegisterMethod kLatchedStateRpcMethod).1.node = session.node :=
    session.rpcRegisterMethod_node _
  refine (ends_iff Control.noConfusion).trans ⟨?_, ?_⟩
  · intro ends
    obtain ⟨choice, middle, between, -, advanced, rest⟩ := ends
    cases choice <;> cases advanced
    obtain ⟨outcome, made⟩ := ends_videoSources.mp rest
    exact ⟨outcome, by rw [← made, Session.adoptLatchedTopicForwarder, same]⟩
  · intro made
    obtain ⟨outcome, made⟩ := made
    refine ⟨.proceed, _, _, rfl, rfl, ends_videoSources.mpr ⟨outcome, ?_⟩⟩
    rw [← made, Session.adoptLatchedTopicForwarder, same]

theorem ends_latched :
    Ends options session .latched node ↔ ∃ outcome, fromLatched options session.node outcome = node := by
  refine (ends_iff Control.noConfusion).trans ⟨?_, ?_⟩
  · intro ends
    obtain ⟨choice, middle, between, -, advanced, rest⟩ := ends
    cases choice <;> try cases advanced
    case outcome success =>
      simp only [advance] at advanced
      split at advanced
      · rename_i unconfigured
        cases advanced
        obtain ⟨outcome, made⟩ := ends_videoSources.mp rest
        refine ⟨outcome, ?_⟩
        rw [fromLatched, Node.initializeLatchedTopicForwarder, if_pos unconfigured]
        exact made
      · rename_i configured
        cases success with
        | false =>
            cases advanced
            refine ⟨{ latchedTopicForwarder := false }, ?_⟩
            rw [fromLatched, Node.initializeLatchedTopicForwarder, if_neg configured]
            exact ends_idle.mp rest
        | true =>
            -- With inbound latched topics the registration comes first.
            have made : ∃ outcome,
                fromVideoSources { session.node with latchedTopicForwarder := some {} } outcome = node := by
              simp only [↓reduceIte] at advanced
              split at advanced <;> cases advanced
              · exact ends_videoSources.mp rest
              · exact ends_registeringLatched.mp rest
            obtain ⟨outcome, made⟩ := made
            refine ⟨{ outcome with latchedTopicForwarder := true }, ?_⟩
            rw [fromLatched, Node.initializeLatchedTopicForwarder, if_neg configured]
            exact made
  · intro made
    obtain ⟨outcome, made⟩ := made
    refine ⟨.outcome outcome.latchedTopicForwarder, ?_⟩
    simp only [advance]
    unfold fromLatched Node.initializeLatchedTopicForwarder at made
    split
    · rename_i unconfigured
      rw [if_pos unconfigured] at made
      exact ⟨_, _, rfl, rfl, ends_videoSources.mpr ⟨outcome, made⟩⟩
    · rename_i configured
      rw [if_neg configured] at made
      cases tried : outcome.latchedTopicForwarder with
      | false =>
          rw [tried] at made
          exact ⟨_, _, rfl, rfl, ends_idle.mpr made⟩
      | true =>
          rw [tried] at made
          by_cases receives : options.inboundTopics.isEmpty = true
          · exact ⟨_, _, rfl, if_pos receives, ends_videoSources.mpr ⟨outcome, made⟩⟩
          · exact ⟨_, _, rfl, if_neg receives, ends_registeringLatched.mpr ⟨outcome, made⟩⟩

theorem ends_registering {registered remaining : List String} :
    Ends options session (.registering registered remaining) node ↔
      ∃ outcome, fromLatched options { session.node with cliManager := true } outcome = node := by
  induction remaining generalizing session registered with
  | nil =>
      refine (ends_iff Control.noConfusion).trans ⟨?_, ?_⟩
      · intro ends
        obtain ⟨choice, middle, between, -, advanced, rest⟩ := ends
        cases choice <;> cases advanced
        exact ends_latched.mp rest
      · exact fun made => ⟨.proceed, _, _, rfl, rfl, ends_latched.mpr made⟩
  | cons method remaining ih =>
      -- whether or not the registration succeeds
      have same : (session.rpcRegisterMethod method).1.node = session.node :=
        session.rpcRegisterMethod_node _
      refine (ends_iff Control.noConfusion).trans ⟨?_, ?_⟩
      · intro ends
        obtain ⟨choice, middle, between, -, advanced, rest⟩ := ends
        cases choice <;> cases advanced
        rw [← same]
        exact ih.mp rest
      · intro made
        rw [← same] at made
        exact ⟨.proceed, _, _, rfl, rfl, ih.mpr made⟩

theorem ends_cliManager :
    Ends options session .cliManager node ↔ ∃ outcome, fromCliManager options session.node outcome = node := by
  refine (ends_iff Control.noConfusion).trans ⟨?_, ?_⟩
  · intro ends
    obtain ⟨choice, middle, between, -, advanced, rest⟩ := ends
    cases choice <;> try cases advanced
    case outcome success =>
      cases success <;> cases advanced
      · exact ⟨{ cliManager := false }, ends_idle.mp rest⟩
      · obtain ⟨outcome, made⟩ := ends_registering.mp rest
        exact ⟨{ outcome with cliManager := true }, made⟩
  · intro made
    obtain ⟨outcome, made⟩ := made
    unfold fromCliManager at made
    split at made
    · exact ⟨.outcome true, _, _, rfl, rfl, ends_registering.mpr ⟨outcome, made⟩⟩
    · exact ⟨.outcome false, _, _, rfl, rfl, ends_idle.mpr made⟩

theorem ends_forwarder :
    Ends options session .forwarder node ↔ ∃ outcome, fromForwarder options session.node outcome = node := by
  refine (ends_iff Control.noConfusion).trans ⟨?_, ?_⟩
  · intro ends
    obtain ⟨choice, middle, between, -, advanced, rest⟩ := ends
    cases choice <;> try cases advanced
    case outcome success =>
      simp only [advance] at advanced
      split at advanced <;> cases advanced
      · rename_i ensures
        obtain ⟨outcome, made⟩ := ends_cliManager.mp rest
        refine ⟨{ outcome with topicForwarder := success }, ?_⟩
        simp only [fromForwarder, ensures]
        exact made
      · rename_i fails
        refine ⟨{ topicForwarder := success }, ?_⟩
        simp only [fromForwarder, fails]
        exact ends_idle.mp rest
  · intro made
    obtain ⟨outcome, made⟩ := made
    refine ⟨.outcome outcome.topicForwarder, ?_⟩
    simp only [advance]
    unfold fromForwarder at made
    cases ensures : session.node.ensureTopicForwarder outcome.topicForwarder with
    | some ensured =>
        rw [ensures] at made
        exact ⟨_, _, rfl, rfl, ends_cliManager.mpr ⟨outcome, made⟩⟩
    | none =>
        rw [ensures] at made
        exact ⟨_, _, rfl, rfl, ends_idle.mpr made⟩

theorem ends_prepare :
    Ends options session .prepare node ↔ ∃ outcome : StartOutcome,
      (session.node.initializeRoomComponents options outcome).getD session.node.stopRoomComponents = node := by
  refine (ends_iff Control.noConfusion).trans ⟨?_, ?_⟩
  · intro ends
    obtain ⟨choice, middle, between, -, advanced, rest⟩ := ends
    cases choice <;> try cases advanced
    case outcome success =>
      simp only [advance] at advanced
      split at advanced <;> cases advanced
      · rename_i prepares
        obtain ⟨outcome, made⟩ := ends_forwarder.mp rest
        refine ⟨{ outcome with prepared := success }, ?_⟩
        rw [getD_initializeRoomComponents options prepares]
        exact made
      · rename_i fails
        refine ⟨{ prepared := success }, ?_⟩
        rw [Node.initializeRoomComponents, fails]
        exact ends_idle.mp rest
  · intro made
    obtain ⟨outcome, made⟩ := made
    refine ⟨.outcome outcome.prepared, ?_⟩
    simp only [advance]
    cases prepares : session.node.prepareRoomSession outcome.prepared with
    | some prepared =>
        rw [getD_initializeRoomComponents options prepares] at made
        exact ⟨_, _, rfl, rfl, ends_forwarder.mpr ⟨outcome, made⟩⟩
    | none =>
        rw [Node.initializeRoomComponents, prepares] at made
        exact ⟨_, _, rfl, rfl, ends_idle.mpr made⟩

end Points

/-- Undisturbed, a start ends in the nodes that `startRoomComponents` makes in one step, for
the outcomes that its initialisers may have, and in no others. -/
theorem start_ends_iff (options : Options) (session : Session) (node : Node)
    (free : session.locked = false) :
    Ends options session .tickStart node ↔
      ∃ outcome, session.node.startRoomComponents options outcome = node := by
  have begins : advance options session .tickStart .proceed =
      some (if session.node.roomComponentsStarted then (session, .idle)
        else ({ session with locked := true }, .prepare)) := by
    simp only [advance, free, Bool.false_eq_true, ↓reduceIte]
    split <;> rfl
  unfold Node.startRoomComponents
  refine (ends_iff Control.noConfusion).trans ⟨?_, ?_⟩
  · intro ends
    obtain ⟨choice, middle, between, -, advanced, rest⟩ := ends
    cases choice <;> try cases advanced
    rw [begins] at advanced
    split at advanced <;> cases advanced
    · rename_i started
      exact ⟨{}, by rw [if_pos started]; exact ends_idle.mp rest⟩
    · rename_i started
      obtain ⟨outcome, made⟩ := ends_prepare.mp rest
      exact ⟨outcome, by rw [if_neg started]; exact made⟩
  · intro made
    obtain ⟨outcome, made⟩ := made
    refine ⟨.proceed, ?_⟩
    rw [begins]
    split at made
    · rename_i started
      rw [if_pos started]
      exact ⟨_, _, rfl, rfl, ends_idle.mpr made⟩
    · rename_i started
      rw [if_neg started]
      exact ⟨_, _, rfl, rfl, ends_prepare.mpr ⟨outcome, made⟩⟩

theorem start_ends_in_connected_room :
    ∃ node, Ends {} ((initial ⟨[], by decide⟩ 1).shared.pollManager 0 true) .tickStart node ∧ Ready node :=
  ⟨_, (start_ends_iff {} _ _ rfl).mpr ⟨{}, rfl⟩, by decide⟩

end RosPortal.Portal.Rpc
