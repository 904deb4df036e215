import RosPortal.Latched.Newest
import RosPortal.Latched.Network

/-! Whether a portal sends on what it injected into ROS itself. The callbacks of the latched
subscriptions do not look at the publisher of a sample. -/

set_option autoImplicit false

namespace RosPortal.Latched

open Interleaving

section Outbound

variable {options : Options} {library : Library} {state next : State} {label : Label}

theorem Transition.history_subset (transition : Transition options library state label next) :
    state.history ⊆ next.history := by
  cases transition with
  | reconciled reconciling =>
      simp only [State.reconcile]
      split
      · exact fun _ member => List.mem_cons_of_mem _ (List.mem_cons_of_mem _ member)
      · exact fun _ member => List.mem_cons_of_mem _ (List.mem_cons_of_mem _ member)
  | recorded recording =>
      simp only [State.record]
      split
      · exact List.subset_cons_self _ _
      · exact List.Subset.refl _
  | skipped idle => exact fun _ member => by simp [member]
  | notReceived | dropped | encoded | listed | picked | performedAll | answered => exact List.Subset.refl _
  | _ => exact List.subset_cons_self _ _

/-- A sample is stored by a callback in its second locked section, if its hash is not held. -/
theorem Transition.stored_cases (transition : Transition options library state label next)
    {publisher : Publisher} {sample : Sample} (stored : .stored publisher sample ∈ next.history) :
    .stored publisher sample ∈ state.history ∨
      ∃ index, label = .callback index ∧ state.callbacks[index]? = some (.store publisher sample) ∧
        state.forwarder.holds (library.contentHash sample) = false := by
  cases transition with
  | reconciled reconciling =>
      simp only [State.reconcile] at stored
      split at stored <;> simpa using stored
  | recorded recording =>
      simp only [State.record] at stored
      split at stored <;> simpa using stored
  | stored running distinct =>
      rcases List.mem_cons.mp stored with same | earlier
      · cases same
        exact .inr ⟨_, rfl, running, distinct⟩
      · exact .inl earlier
  | _ => exact .inl (by simpa using stored)

def Worker.messages : Worker → List StoredMessage
  | .idle | .listing | .reconciling _ => []
  | .pushing push | .recording push _ _ => push.messages
  | .sending push _ rest | .awaiting push _ rest => push.messages ++ rest

theorem Transition.worker_messages (transition : Transition options library state label next) :
    next.worker.messages ⊆ state.worker.messages ++ state.forwarder.messages := by
  cases transition with
  | reconciled reconciling =>
      simp only [State.reconcile]
      split
      · exact List.nil_subset _
      · exact List.subset_append_right _ _
  | woken | listed | notListed | finished => exact List.nil_subset _
  | performed sending =>
      intro message member
      simp only [sending, Worker.messages, List.mem_append, List.mem_cons] at member ⊢
      exact .inl (member.imp_right .inr)
  | picked there | performedAll there | answered there | failed there | recorded there =>
      intro message member
      simp only [there, Worker.messages, State.record, List.mem_append] at member ⊢
      tauto
  | _ => exact List.subset_append_left _ _

theorem Transition.sent_cases (transition : Transition options library state label next) {id : String}
    {message : StoredMessage} (sent : .sent id message ∈ next.history) :
    .sent id message ∈ state.history ∨ message ∈ state.worker.messages := by
  cases transition with
  | reconciled reconciling =>
      simp only [State.reconcile] at sent
      split at sent <;> exact .inl (by simpa using sent)
  | recorded recording =>
      simp only [State.record] at sent
      split at sent <;> exact .inl (by simpa using sent)
  | performed sending =>
      rcases List.mem_cons.mp sent with same | earlier
      · cases same
        exact .inr (by simp [sending, Worker.messages])
      · exact .inl earlier
  | _ => exact .inl (by simpa using sent)

/-- The message is the one of a sample that was stored. -/
def FromStored (library : Library) (history : History) (message : StoredMessage) : Prop :=
  ∃ publisher sample, .stored publisher sample ∈ history ∧ message = library.message sample

theorem FromStored.mono {history later : History} {message : StoredMessage}
    (fromStored : FromStored library history message) (grown : history ⊆ later) :
    FromStored library later message := by
  obtain ⟨publisher, sample, stored, same⟩ := fromStored
  exact ⟨publisher, sample, grown stored, same⟩

theorem Bookkeeping.fromStored (books : Bookkeeping options library state) {message : StoredMessage}
    (held : message ∈ state.forwarder.messages) : FromStored library state.history message := by
  have retained : message ∈ state.forwarder.messages.reverse := List.mem_reverse.mpr held
  rw [books.retained] at retained
  obtain ⟨sample, member, same⟩ := List.mem_map.mp retained
  obtain ⟨publisher, stored⟩ := History.mem_storedSamples (List.mem_of_mem_take member)
  exact ⟨publisher, sample, stored, same.symm⟩

/-- Whatever is sent, or copied to be sent, was stored. -/
structure Sourced (library : Library) (state : State) : Prop where
  worker : ∀ message ∈ state.worker.messages, FromStored library state.history message
  sent : ∀ id message, .sent id message ∈ state.history → FromStored library state.history message

theorem Sourced.step (sourced : Sourced library state) (books : Bookkeeping options library state)
    (transition : Transition options library state label next) : Sourced library next := by
  have grown := transition.history_subset
  constructor
  · intro message member
    rcases List.mem_append.mp (transition.worker_messages member) with copied | held
    · exact (sourced.worker message copied).mono grown
    · exact (books.fromStored held).mono grown
  · intro id message sent
    rcases transition.sent_cases sent with earlier | copied
    · exact (sourced.sent id message earlier).mono grown
    · exact (sourced.worker message copied).mono grown

end Outbound

def OutboundStep (options : Options) (library : Library) (before after : State)
    (callback : Nat → Prop) : Prop :=
  after = before ∨ ∃ label, Transition options library before label after ∧
    ∀ index, label = .callback index → callback index

theorem Portal.outboundStep {options : Options} {library : Library} {portal next : Portal} {action : Action}
    (acted : portal.act? options library action = some next) :
    OutboundStep options library portal.outbound next.outbound
      fun index => action = .outbound (.callback index) := by
  cases action with
  | publish topic type data =>
      cases acted
      exact .inl rfl
  | reconcileTopics topics =>
      cases acted
      exact .inl rfl
  | deliver index available =>
      simp only [Portal.act?, Portal.deliver?] at acted
      split at acted
      · cases acted
      · split at acted
        · cases acted
          exact .inr ⟨.receive _ _ available, step_transition rfl, fun _ other => (nomatch other)⟩
        · cases acted
  | outbound label =>
      simp only [Portal.act?] at acted
      split at acted
      · cases acted
      · obtain ⟨outbound, stepped, rfl⟩ := Option.map_eq_some_iff.mp acted
        exact .inr ⟨label, step_transition stepped, fun _ same => congrArg Action.outbound same⟩

theorem Network.outboundStep {options : String → Options} {library : Library} {network next : Network}
    {label : NetworkLabel} (stepped : (Network.machine options library).step? network label = some next)
    (id : String) :
    OutboundStep (options id) library (network.portals id).outbound (next.portals id).outbound
      fun index => label = .act id (.outbound (.callback index)) := by
  cases label with
  | act actor action =>
      obtain ⟨portal, acted, rfl⟩ := Option.map_eq_some_iff.mp stepped
      by_cases same : id = actor
      · subst same
        rcases Portal.outboundStep acted with kept | ⟨step, transition, callback⟩
        · exact .inl (by simpa using kept)
        · exact .inr ⟨step, by simpa using transition, fun index same => by rw [callback index same]⟩
      · exact .inl (by simp [Function.update_of_ne same])
  | serve index outcome =>
      obtain ⟨call, _, rfl⟩ := Option.map_eq_some_iff.mp stepped
      by_cases same : id = call.1
      · subst same
        exact .inl (by simp [Portal.serve])
      · exact .inl (by simp [Function.update_of_ne same])

/-- No portal stores what it injected, and all that it sends was stored from the
publications of others. -/
def NoEcho (library : Library) (network : Network) : Prop :=
  ∀ id, (∀ sample, .stored .inbound sample ∉ (network.portals id).outbound.history) ∧
    ∀ peer message, .sent peer message ∈ (network.portals id).outbound.history →
      ∃ sample, .stored .ordinary sample ∈ (network.portals id).outbound.history ∧
        message = library.message sample

/-- A callback that comes to its second locked section with a sample that the portal
injected finds identical content in the store. -/
def Network.suppresses (library : Library) (network : Network) : NetworkLabel → Bool
  | .act id (.outbound (.callback index)) =>
      match (network.portals id).outbound.callbacks[index]? with
      | some (.store .inbound sample) =>
          (network.portals id).outbound.forwarder.holds (library.contentHash sample)
      | _ => true
  | _ => true

/-- What every run of the network keeps. -/
structure Grounded (options : String → Options) (library : Library) (network : Network) : Prop where
  books : ∀ id, Bookkeeping (options id) library (network.portals id).outbound
  sourced : ∀ id, Sourced library (network.portals id).outbound

theorem grounded_of_reaches {options : String → Options} {library : Library} {network : Network}
    (reached : (Network.machine options library).Reaches {} network) : Grounded options library network := by
  refine reached.invariant ⟨fun id => bookkeeping_initial _ _, fun id => ⟨?_, ?_⟩⟩ ?_
  · exact fun _ member => (nomatch member)
  · exact fun _ _ sent => (nomatch sent)
  · intro network next label grounded _ stepped
    refine ⟨fun id => ?_, fun id => ?_⟩
    · rcases Network.outboundStep stepped id with kept | ⟨_, transition, _⟩
      · rw [kept]
        exact grounded.books id
      · exact (grounded.books id).step transition
    · rcases Network.outboundStep stepped id with kept | ⟨_, transition, _⟩
      · rw [kept]
        exact grounded.sourced id
      · exact (grounded.sourced id).step (grounded.books id) transition

def NothingInjectedStored (network : Network) : Prop :=
  ∀ id sample, .stored .inbound sample ∉ (network.portals id).outbound.history

theorem nothingInjectedStored_of_run {options : String → Options} {library : Library} {network : Network}
    (run : (Network.machine options library).Run (fun network label => network.suppresses library label = true)
      {} network) :
    NothingInjectedStored network := by
  have start : NothingInjectedStored {} := fun _ _ stored => (nomatch stored)
  refine run.invariant start ?_
  intro network next label nothing suppressed stepped id sample stored
  rcases Network.outboundStep stepped id with kept | ⟨step, transition, callback⟩
  · exact nothing id sample (kept ▸ stored)
  · rcases transition.stored_cases stored with earlier | ⟨index, same, running, distinct⟩
    · exact nothing id sample earlier
    · rw [callback index same] at suppressed
      simp only [Network.suppresses, running] at suppressed
      rw [distinct] at suppressed
      cases suppressed

def InjectedStored (network : Network) : Prop :=
  ∃ id sample, .stored .inbound sample ∈ (network.portals id).outbound.history

theorem injectedStored_of_reaches {options : String → Options} {library : Library} {network final : Network}
    (reached : (Network.machine options library).Reaches network final) (stored : InjectedStored network) :
    InjectedStored final := by
  refine reached.invariant stored ?_
  rintro network next label ⟨id, sample, stored⟩ _ stepped
  refine ⟨id, sample, ?_⟩
  rcases Network.outboundStep stepped id with kept | ⟨_, transition, _⟩
  · exact kept ▸ stored
  · exact transition.history_subset stored

theorem injectedStored_of_unsuppressed {options : String → Options} {library : Library}
    {network next : Network} {label : NetworkLabel} (unsuppressed : network.suppresses library label = false)
    (stepped : (Network.machine options library).step? network label = some next) : InjectedStored next := by
  cases label with
  | serve index outcome => cases unsuppressed
  | act id action =>
      obtain ⟨portal, acted, rfl⟩ := Option.map_eq_some_iff.mp stepped
      cases action with
      | outbound label =>
          cases label with
          | callback index =>
              simp only [Network.suppresses] at unsuppressed
              split at unsuppressed
              case h_1 sample running =>
                obtain ⟨outbound, called, rfl⟩ := Option.map_eq_some_iff.mp acted
                simp only [step?, State.callback?, running, State.store, unsuppressed,
                  Option.some.injEq] at called
                exact ⟨id, sample, by simp [← called]⟩
              · cases unsuppressed
          | _ => cases unsuppressed
      | _ => cases unsuppressed

/-- In a run in which every injected payload that comes back is suppressed as a duplicate no
portal stores or sends what it injected; one that is not suppressed is stored for good. -/
theorem no_echo (options : String → Options) (library : Library) :
    (∀ network, (Network.machine options library).Run (fun network label => network.suppresses library label = true)
      {} network →
      NoEcho library network) ∧
    ∀ network label next, (Network.machine options library).Reaches {} network →
      network.suppresses library label = false →
      (Network.machine options library).step? network label = some next →
      ∀ final, (Network.machine options library).Reaches next final → ¬ NoEcho library final := by
  constructor
  · intro network run id
    have nothing := nothingInjectedStored_of_run run id
    refine ⟨nothing, ?_⟩
    intro peer message sent
    obtain ⟨publisher, sample, stored, same⟩ :=
      ((grounded_of_reaches run.reaches).sourced id).sent peer message sent
    cases publisher with
    | ordinary => exact ⟨sample, stored, same⟩
    | inbound => exact absurd stored (nothing sample)
  · intro network label next _ unsuppressed stepped final reached noEcho
    obtain ⟨id, sample, stored⟩ :=
      injectedStored_of_reaches reached (injectedStored_of_unsuppressed unsuppressed stepped)
    exact (noEcho id).1 sample stored

/-- The topic is latched and bidirectional on every portal. -/
def bidirectional : Options := latchedTopicForwarderOptions [⟨"/mode", .bidirectional, true⟩]

/-- A publisher of the portal's own ROS graph publishes on the topic, and the sample comes to
the second locked section. -/
def publishing (id : String) : List NetworkLabel :=
  [.act id (.publish "/mode" "std_msgs/msg/String" [1]),
    .act id (.reconcileTopics ⟨[("/mode", ["std_msgs/msg/String"])], by simp⟩),
    .act id (.deliver 0 true), .act id (.outbound (.callback 0)), .act id (.outbound (.callback 0))]

def sending (id peer : String) : List NetworkLabel :=
  [Label.join peer, .wake true, .list true, .reconcile, .pick peer, .perform].map fun label =>
    .act id (.outbound label)

theorem no_echo_of_known_content :
    ∃ network, NoEcho plainLibrary network ∧
      .received .inbound ⟨"/mode", "std_msgs/msg/String", [1]⟩ ∈ (network.portals "beta").outbound.history := by
  obtain ⟨network, run, received⟩ := Machine.Run.exists_of_exec
    (Network.machine (fun _ => bidirectional) plainLibrary)
    (fun network label => network.suppresses plainLibrary label = true) {}
    (publishing "beta" ++ publishing "alpha" ++ sending "alpha" "beta" ++
      [.serve 0 {}, .act "beta" (.deliver 0 true), .act "beta" (.outbound (.callback 0))])
    (fun network : Network => .received .inbound ⟨"/mode", "std_msgs/msg/String", [1]⟩ ∈
      (network.portals "beta").outbound.history)
    (by decide +kernel)
  exact ⟨network, (no_echo (fun _ => bidirectional) plainLibrary).1 network run, received⟩

/-- The peer's own subscription receives what the push injected, stores it and sends it back. -/
def echoing : List NetworkLabel :=
  publishing "alpha" ++ sending "alpha" "beta" ++
    [.serve 0 {}, .act "beta" (.reconcileTopics ⟨[("/mode", ["std_msgs/msg/String"])], by simp⟩),
      .act "beta" (.deliver 0 true), .act "beta" (.outbound (.callback 0)),
      .act "beta" (.outbound (.callback 0))] ++ sending "beta" "alpha"

theorem echo :
    ∃ network, (Network.machine (fun _ => bidirectional) plainLibrary).Reaches {} network ∧
      ¬ NoEcho plainLibrary network ∧
      .sent "alpha" (plainLibrary.message ⟨"/mode", "std_msgs/msg/String", [1]⟩) ∈
        (network.portals "beta").outbound.history := by
  obtain ⟨network, reached, stored, sent⟩ := Machine.Reaches.exists_of_exec
    (Network.machine (fun _ => bidirectional) plainLibrary) {} echoing
    (fun network : Network =>
      .stored .inbound ⟨"/mode", "std_msgs/msg/String", [1]⟩ ∈ (network.portals "beta").outbound.history ∧
      .sent "alpha" (plainLibrary.message ⟨"/mode", "std_msgs/msg/String", [1]⟩) ∈
        (network.portals "beta").outbound.history)
    (by decide +kernel)
  exact ⟨network, reached, fun noEcho => (noEcho "beta").1 _ stored, sent⟩

end RosPortal.Latched
