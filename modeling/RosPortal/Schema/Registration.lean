import RosPortal.Schema.Ownership

/-! Registration is single-flight, and an ID is only handed out for a schema that
has been defined: the record of `define_schema` calls against the map. -/

set_option autoImplicit false

namespace RosPortal.Schema

open Interleaving

variable {Hash : Type} {hashSchemaText : String → Hash}

def Succeeded (calls : List DefineEvent) (request : DefinitionRequest) : Prop :=
  ∃ outcome, outcome.defined = true ∧ .finished request outcome ∈ calls

/-- A `define_schema` for the key, of a text with this hash, has succeeded. -/
def Defined (hashSchemaText : String → Hash) (calls : List DefineEvent) (key : String) (hash : Hash) :
    Prop :=
  ∃ request, Succeeded calls request ∧ request.dedupeKey = key ∧ hashSchemaText request.schemaText = hash

/-- Newest first: no call starts for a key after one has succeeded for it. -/
def NoneAfterSuccess : List DefineEvent → Prop
  | [] => True
  | .started request :: calls =>
      (∀ other, Succeeded calls other → other.dedupeKey ≠ request.dedupeKey) ∧ NoneAfterSuccess calls
  | .finished _ _ :: calls => NoneAfterSuccess calls

theorem succeeded_cons {calls : List DefineEvent} {request : DefinitionRequest} (event : DefineEvent)
    (succeeded : Succeeded calls request) : Succeeded (event :: calls) request := by
  obtain ⟨outcome, accepted, member⟩ := succeeded
  exact ⟨outcome, accepted, List.mem_cons_of_mem _ member⟩

theorem succeeded_of_started {calls : List DefineEvent} {request started : DefinitionRequest}
    (succeeded : Succeeded (.started started :: calls) request) : Succeeded calls request := by
  obtain ⟨outcome, accepted, member⟩ := succeeded
  exact ⟨outcome, accepted, (List.mem_cons.mp member).resolve_left (by simp)⟩

theorem succeeded_of_finished {calls : List DefineEvent} {request finished : DefinitionRequest}
    {outcome : Outcome} (succeeded : Succeeded (.finished finished outcome :: calls) request) :
    (request = finished ∧ outcome.defined = true) ∨ Succeeded calls request := by
  obtain ⟨ended, accepted, member⟩ := succeeded
  rcases List.mem_cons.mp member with same | earlier
  · cases same
    exact .inl ⟨rfl, accepted⟩
  · exact .inr ⟨ended, accepted, earlier⟩

theorem Defined.cons {calls : List DefineEvent} {key : String} {hash : Hash} (event : DefineEvent)
    (defined : Defined hashSchemaText calls key hash) :
    Defined hashSchemaText (event :: calls) key hash := by
  obtain ⟨request, succeeded, same⟩ := defined
  exact ⟨request, succeeded_cons event succeeded, same⟩

/-- The thread is about to record a success for the key. -/
def RecordsSuccess (config : Config Hash) (request : DefinitionRequest) : Prop :=
  ∃ (thread : Nat) (outcome : Outcome), outcome.defined = true ∧
    config.threads[thread]? = some (.recording request outcome)

/-- What the record of calls says about the map and about the callers. -/
structure Recorded (hashSchemaText : String → Hash) (config : Config Hash) : Prop where
  recording : ∀ {thread : Nat} {request : DefinitionRequest} {outcome : Outcome},
    config.threads[thread]? = some (.recording request outcome) →
    .finished request outcome ∈ config.shared.calls
  success : ∀ {request : DefinitionRequest}, Succeeded config.shared.calls request →
    config.shared.definedSchemas.lookup request.dedupeKey =
      some ⟨hashSchemaText request.schemaText, true⟩ ∨ RecordsSuccess config request
  entry : ∀ {key : String} {hash : Hash},
    config.shared.definedSchemas.lookup key = some ⟨hash, true⟩ →
    Defined hashSchemaText config.shared.calls key hash
  returned : ∀ {thread : Nat} {request : DefinitionRequest} {id : DataTrackSchemaId},
    config.threads[thread]? = some (.returned request (some id)) →
    id = request.schemaId ∧
      Defined hashSchemaText config.shared.calls request.dedupeKey (hashSchemaText request.schemaText)
  ordered : NoneAfterSuccess config.shared.calls

/-- A blocked caller waits for an owner: as long as no notification has been sent
since it was blocked, its key is owned. -/
structure Awaited (config : Config Hash) : Prop where
  notifiedLater : ∀ {thread : Nat} {request : DefinitionRequest} {since : Nat},
    config.threads[thread]? = some (.waiting request since) → since ≤ config.shared.notifications
  owned : ∀ {thread : Nat} {request : DefinitionRequest},
    config.threads[thread]? = some (.waiting request config.shared.notifications) →
    Owned config request.dedupeKey

section RecordedStep

/-- While a caller owns an entry, the only success recorded for its key is its own. -/
theorem Recorded.success_of_owner {config : Config Hash} {thread : Nat}
    {request other : DefinitionRequest} (inv : Recorded hashSchemaText config)
    (owner : Ownership hashSchemaText config) (owns : Owns config thread request)
    (succeeded : Succeeded config.shared.calls other)
    (same : other.dedupeKey = request.dedupeKey) :
    ∃ outcome, outcome.defined = true ∧
      config.threads[thread]? = some (.recording other outcome) := by
  rcases inv.success succeeded with entry | ⟨recorder, outcome, accepted, found⟩
  · rw [same, owner.entry owns] at entry
    simp at entry
  · have one : recorder = thread := owner.exclusive ⟨_, found, rfl⟩ owns same
    subst recorder
    exact ⟨outcome, accepted, found⟩

variable [DecidableEq Hash] {config next : Config Hash} {thread : Nat} {choice : Choice}
  {before after : Control}

theorem RecordsSuccess.kept {request : DefinitionRequest}
    (step : (program hashSchemaText).StepOf config thread choice next before after)
    (records : RecordsSuccess config request)
    (elsewhere : ∀ outcome, outcome.defined = true → before ≠ .recording request outcome) :
    RecordsSuccess next request := by
  obtain ⟨other, outcome, accepted, found⟩ := records
  refine ⟨other, outcome, accepted, ?_⟩
  by_cases same : other = thread
  · subst other
    rw [step.running] at found
    exact absurd (Option.some.inj found) (elsewhere outcome accepted)
  · exact (step.others other same).trans found

theorem Recorded.quiet (inv : Recorded hashSchemaText config)
    (step : (program hashSchemaText).StepOf config thread choice next before after)
    (sameCalls : next.shared.calls = config.shared.calls)
    (sameEntries : next.shared.definedSchemas = config.shared.definedSchemas)
    (left : ∀ request outcome, before ≠ .recording request outcome)
    (arrived : ∀ request outcome, after ≠ .recording request outcome)
    (result : ∀ request id, after = .returned request (some id) → id = request.schemaId ∧
      Defined hashSchemaText config.shared.calls request.dedupeKey
        (hashSchemaText request.schemaText)) : Recorded hashSchemaText next := by
  constructor
  · intro other request outcome found
    rw [sameCalls]
    rcases step.thread_cases found with ⟨_, here⟩ | ⟨_, earlier⟩
    · exact absurd here.symm (arrived request outcome)
    · exact inv.recording earlier
  · intro request succeeded
    rw [sameCalls] at succeeded
    rw [sameEntries]
    rcases inv.success succeeded with entry | records
    · exact .inl entry
    · exact .inr (records.kept step fun outcome _ => left request outcome)
  · intro key hash found
    rw [sameEntries] at found
    rw [sameCalls]
    exact inv.entry found
  · intro other request id found
    rw [sameCalls]
    rcases step.thread_cases found with ⟨_, here⟩ | ⟨_, earlier⟩
    · exact result request id here.symm
    · exact inv.returned earlier
  · rw [sameCalls]
    exact inv.ordered

theorem Recorded.inserted {request : DefinitionRequest} (inv : Recorded hashSchemaText config)
    (step : (program hashSchemaText).StepOf config thread choice next (.locking request)
      (.calling request)) (sameCalls : next.shared.calls = config.shared.calls)
    (absent : config.shared.definedSchemas.lookup request.dedupeKey = none)
    (inserted : next.shared.definedSchemas = config.shared.definedSchemas.insert request.dedupeKey
      ⟨hashSchemaText request.schemaText, false⟩) : Recorded hashSchemaText next := by
  constructor
  · intro other recorded outcome found
    rw [sameCalls]
    rcases step.thread_cases found with ⟨_, here⟩ | ⟨_, earlier⟩
    · cases here
    · exact inv.recording earlier
  · intro other succeeded
    rw [sameCalls] at succeeded
    rcases inv.success succeeded with entry | records
    · have apart : other.dedupeKey ≠ request.dedupeKey := by
        intro same
        rw [same, absent] at entry
        cases entry
      left
      rw [inserted, AList.lookup_insert_ne apart]
      exact entry
    · exact .inr (records.kept step fun _ _ => by simp)
  · intro key hash found
    rw [sameCalls]
    rw [inserted] at found
    by_cases same : key = request.dedupeKey
    · subst key
      simp at found
    · rw [AList.lookup_insert_ne same] at found
      exact inv.entry found
  · intro other returned id found
    rw [sameCalls]
    rcases step.thread_cases found with ⟨_, here⟩ | ⟨_, earlier⟩
    · cases here
    · exact inv.returned earlier
  · rw [sameCalls]
    exact inv.ordered

/-- A call that starts is the first for its key since none has succeeded. -/
theorem Recorded.started {request : DefinitionRequest} (inv : Recorded hashSchemaText config)
    (owner : Ownership hashSchemaText config)
    (step : (program hashSchemaText).StepOf config thread choice next (.calling request)
      (.inFlight request)) (called : next.shared.calls = .started request :: config.shared.calls)
    (sameEntries : next.shared.definedSchemas = config.shared.definedSchemas) :
    Recorded hashSchemaText next := by
  constructor
  · intro other recorded outcome found
    rw [called]
    rcases step.thread_cases found with ⟨_, here⟩ | ⟨_, earlier⟩
    · cases here
    · exact List.mem_cons_of_mem _ (inv.recording earlier)
  · intro other succeeded
    rw [called] at succeeded
    rw [sameEntries]
    rcases inv.success (succeeded_of_started succeeded) with entry | records
    · exact .inl entry
    · exact .inr (records.kept step fun _ _ => by simp)
  · intro key hash found
    rw [sameEntries] at found
    rw [called]
    exact (inv.entry found).cons _
  · intro other returned id found
    rw [called]
    rcases step.thread_cases found with ⟨_, here⟩ | ⟨_, earlier⟩
    · cases here
    · obtain ⟨same, defined⟩ := inv.returned earlier
      exact ⟨same, defined.cons _⟩
  · rw [called]
    refine ⟨?_, inv.ordered⟩
    intro other succeeded same
    obtain ⟨outcome, _, found⟩ := inv.success_of_owner owner ⟨_, step.running, rfl⟩ succeeded same
    rw [step.running] at found
    cases found

theorem Recorded.finished {request : DefinitionRequest} {outcome : Outcome}
    (inv : Recorded hashSchemaText config)
    (step : (program hashSchemaText).StepOf config thread choice next (.inFlight request)
      (.recording request outcome))
    (called : next.shared.calls = .finished request outcome :: config.shared.calls)
    (sameEntries : next.shared.definedSchemas = config.shared.definedSchemas) :
    Recorded hashSchemaText next := by
  constructor
  · intro other recorded ended found
    rw [called]
    rcases step.thread_cases found with ⟨_, here⟩ | ⟨_, earlier⟩
    · cases here
      exact List.mem_cons_self
    · exact List.mem_cons_of_mem _ (inv.recording earlier)
  · intro other succeeded
    rw [called] at succeeded
    rw [sameEntries]
    rcases succeeded_of_finished succeeded with ⟨rfl, accepted⟩ | earlier
    · exact .inr ⟨thread, outcome, accepted, step.advancedTo⟩
    · rcases inv.success earlier with entry | records
      · exact .inl entry
      · exact .inr (records.kept step fun _ _ => by simp)
  · intro key hash found
    rw [sameEntries] at found
    rw [called]
    exact (inv.entry found).cons _
  · intro other returned id found
    rw [called]
    rcases step.thread_cases found with ⟨_, here⟩ | ⟨_, earlier⟩
    · cases here
    · obtain ⟨same, defined⟩ := inv.returned earlier
      exact ⟨same, defined.cons _⟩
  · rw [called]
    exact inv.ordered

/-- Both ways of recording an outcome: the entry of the key is settled by what the
call returned, every other entry stays. -/
theorem Recorded.settled {request : DefinitionRequest} {outcome : Outcome}
    (inv : Recorded hashSchemaText config) (owner : Ownership hashSchemaText config)
    (step : (program hashSchemaText).StepOf config thread choice next (.recording request outcome)
      after) (sameCalls : next.shared.calls = config.shared.calls)
    (entry : outcome.defined = true → next.shared.definedSchemas.lookup request.dedupeKey =
      some ⟨hashSchemaText request.schemaText, true⟩)
    (absent : outcome.defined = false →
      next.shared.definedSchemas.lookup request.dedupeKey = none)
    (frame : ∀ key, key ≠ request.dedupeKey →
      next.shared.definedSchemas.lookup key = config.shared.definedSchemas.lookup key)
    (result : after = .returned request (if outcome.defined then some request.schemaId else none)) :
    Recorded hashSchemaText next := by
  have here : Defined hashSchemaText config.shared.calls request.dedupeKey
      (hashSchemaText request.schemaText) ∨ outcome.defined = false := by
    cases accepted : outcome.defined with
    | false => exact .inr rfl
    | true => exact .inl ⟨request, ⟨outcome, accepted, inv.recording step.running⟩, rfl, rfl⟩
  subst after
  constructor
  · intro other recorded ended found
    rw [sameCalls]
    rcases step.thread_cases found with ⟨_, here⟩ | ⟨_, earlier⟩
    · cases here
    · exact inv.recording earlier
  · intro other succeeded
    rw [sameCalls] at succeeded
    by_cases same : other.dedupeKey = request.dedupeKey
    · obtain ⟨ended, accepted, found⟩ :=
        inv.success_of_owner owner ⟨_, step.running, rfl⟩ succeeded same
      rw [step.running] at found
      cases found
      exact .inl (entry accepted)
    · rw [frame _ same]
      rcases inv.success succeeded with entry | records
      · exact .inl entry
      · refine .inr (records.kept step ?_)
        intro ended _ same
        cases same
        exact same rfl
  · intro key hash found
    rw [sameCalls]
    by_cases same : key = request.dedupeKey
    · subst key
      rcases here with defined | rejected
      · cases accepted : outcome.defined with
        | false =>
            rw [absent accepted] at found
            cases found
        | true =>
            rw [entry accepted] at found
            cases found
            exact defined
      · rw [absent rejected] at found
        cases found
    · rw [frame key same] at found
      exact inv.entry found
  · intro other returned id found
    rw [sameCalls]
    rcases step.thread_cases found with ⟨_, arrived⟩ | ⟨_, earlier⟩
    · rcases here with defined | rejected
      · cases accepted : outcome.defined <;> simp [accepted] at arrived
        obtain ⟨rfl, rfl⟩ := arrived
        exact ⟨rfl, defined⟩
      · simp [rejected] at arrived
    · exact inv.returned earlier
  · rw [sameCalls]
    exact inv.ordered

end RecordedStep

theorem Recorded.step [DecidableEq Hash] {config next : Config Hash} {label : Nat × Choice}
    (owner : Ownership hashSchemaText config) (inv : Recorded hashSchemaText config)
    (stepped : (program hashSchemaText).machine.step? config label = some next) :
    Recorded hashSchemaText next := by
  obtain ⟨before, after, step, transition⟩ := step_transition stepped
  obtain ⟨thread, choice⟩ := label
  obtain ⟨registry, threads⟩ := next
  change Transition hashSchemaText config.shared before choice registry after at transition
  cases transition with
  | notRendered outside | requested outside =>
      refine inv.quiet step rfl rfl ?_ (by simp) (by simp)
      rintro request outcome rfl
      cases outside
  | mismatched | blocked | woke => exact inv.quiet step rfl rfl (by simp) (by simp) (by simp)
  | alreadyDefined found =>
      refine inv.quiet step rfl rfl (by simp) (by simp) ?_
      intro request id same
      cases same
      exact ⟨rfl, inv.entry found⟩
  | inserted absent => exact inv.inserted step rfl absent rfl
  | started => exact inv.started owner step rfl rfl
  | finished => exact inv.finished step rfl rfl
  | lost absent =>
      have entry := owner.entry ⟨_, step.running, rfl⟩
      rw [absent] at entry
      cases entry
  | defined found accepted =>
      rw [owner.entry ⟨_, step.running, rfl⟩] at found
      cases found
      refine inv.settled owner step rfl ?_ ?_ ?_ (by simp [accepted])
      · intro _
        exact AList.lookup_insert _
      · intro rejected
        rw [accepted] at rejected
        cases rejected
      · intro key different
        exact AList.lookup_insert_ne different
  | failed rejected =>
      refine inv.settled owner step rfl ?_ ?_ ?_ (by simp [rejected])
      · intro accepted
        rw [rejected] at accepted
        cases accepted
      · intro _
        exact AList.lookup_erase _ _
      · intro key different
        exact AList.lookup_erase_ne different

section AwaitedStep

variable [DecidableEq Hash] {config next : Config Hash} {thread : Nat} {choice : Choice}
  {before after : Control}

/-- Without a notification the same callers stay blocked, and no owner may leave. -/
theorem Awaited.quiet (inv : Awaited config)
    (step : (program hashSchemaText).StepOf config thread choice next before after)
    (sameCount : next.shared.notifications = config.shared.notifications)
    (stays : ∀ request, before.owned? = some request → after.owned? = some request)
    (arrived : ∀ request since, after = .waiting request since →
      since = config.shared.notifications ∧ Owned config request.dedupeKey) : Awaited next := by
  constructor
  · intro other request since found
    rw [sameCount]
    rcases step.thread_cases found with ⟨_, here⟩ | ⟨_, earlier⟩
    · exact Nat.le_of_eq (arrived request since here.symm).1
    · exact inv.notifiedLater earlier
  · intro other request found
    rw [sameCount] at found
    rcases step.thread_cases found with ⟨_, here⟩ | ⟨_, earlier⟩
    · exact owned_kept step (arrived request _ here.symm).2 stays
    · exact owned_kept step (inv.owned earlier) stays

theorem Awaited.notified (inv : Awaited config)
    (step : (program hashSchemaText).StepOf config thread choice next before after)
    (notified : next.shared.notifications = config.shared.notifications + 1)
    (arrived : ∀ request since, after ≠ .waiting request since) : Awaited next := by
  have earlier : ∀ {other : Nat} {request : DefinitionRequest} {since : Nat},
      next.threads[other]? = some (.waiting request since) → since ≤ config.shared.notifications := by
    intro other request since found
    rcases step.thread_cases found with ⟨_, here⟩ | ⟨_, before⟩
    · exact absurd here.symm (arrived request since)
    · exact inv.notifiedLater before
  constructor
  · intro other request since found
    have := earlier found
    omega
  · intro other request found
    have := earlier found
    omega

end AwaitedStep

theorem Awaited.step [DecidableEq Hash] {config next : Config Hash} {label : Nat × Choice}
    (owner : Ownership hashSchemaText config) (inv : Awaited config)
    (stepped : (program hashSchemaText).machine.step? config label = some next) : Awaited next := by
  obtain ⟨before, after, step, transition⟩ := step_transition stepped
  obtain ⟨thread, choice⟩ := label
  obtain ⟨registry, threads⟩ := next
  change Transition hashSchemaText config.shared before choice registry after at transition
  cases transition with
  | notRendered outside | requested outside =>
      refine inv.quiet step rfl ?_ (by simp)
      intro request holds
      rw [outside_owns_nothing outside] at holds
      cases holds
  | inserted | mismatched | alreadyDefined | woke => exact inv.quiet step rfl (by simp [Control.owned?]) (by simp)
  | started | finished => exact inv.quiet step rfl (fun _ holds => holds) (by simp)
  | blocked found =>
      refine inv.quiet step rfl (by simp [Control.owned?]) ?_
      intro request since same
      cases same
      exact ⟨rfl, owner.owner found⟩
  | lost absent =>
      have entry := owner.entry ⟨_, step.running, rfl⟩
      rw [absent] at entry
      cases entry
  | defined | failed => exact inv.notified step rfl (by simp)

structure RegistryInvariant (hashSchemaText : String → Hash) (config : Config Hash) : Prop where
  ownership : Ownership hashSchemaText config
  recorded : Recorded hashSchemaText config
  awaited : Awaited config
  neverLost : ∀ (thread : Nat) (request : DefinitionRequest),
    config.threads[thread]? ≠ some (.lost request)

theorem never_lost_step [DecidableEq Hash] {config next : Config Hash} {label : Nat × Choice}
    (owner : Ownership hashSchemaText config)
    (inv : ∀ (thread : Nat) (request : DefinitionRequest),
      config.threads[thread]? ≠ some (.lost request))
    (stepped : (program hashSchemaText).machine.step? config label = some next) :
    ∀ (thread : Nat) (request : DefinitionRequest), next.threads[thread]? ≠ some (.lost request) := by
  obtain ⟨before, after, step, transition⟩ := step_transition stepped
  obtain ⟨thread, choice⟩ := label
  obtain ⟨registry, threads⟩ := next
  change Transition hashSchemaText config.shared before choice registry after at transition
  intro other request found
  rcases step.thread_cases found with ⟨_, rfl⟩ | ⟨_, earlier⟩
  · cases transition with
    | lost absent =>
        have entry := owner.entry ⟨_, step.running, rfl⟩
        rw [absent] at entry
        cases entry
  · exact inv other request earlier

theorem initial_thread {threads thread : Nat} {control : Control}
    (found : (initial Hash threads).threads[thread]? = some control) : control = .idle := by
  simp only [initial, List.getElem?_replicate, Option.ite_none_right_eq_some,
    Option.some.injEq] at found
  exact found.2.symm

theorem registryInvariant_initial (threads : Nat) :
    RegistryInvariant hashSchemaText (initial Hash threads) := by
  refine ⟨ownership_initial threads, ⟨?_, ?_, ?_, ?_, trivial⟩, ⟨?_, ?_⟩, ?_⟩
  · intro thread request outcome found
    cases initial_thread found
  · intro request outstanding
    obtain ⟨outcome, _, member⟩ := outstanding
    cases member
  · intro key hash found
    simp [initial] at found
  · intro thread request id found
    cases initial_thread found
  · intro thread request since found
    cases initial_thread found
  · intro thread request found
    cases initial_thread found
  · intro thread request found
    cases initial_thread found

theorem registryInvariant_of_run [DecidableEq Hash] {threads : Nat} {config : Config Hash}
    {permitted : Config Hash → Nat × Choice → Prop}
    (run : (program hashSchemaText).machine.Run permitted (initial Hash threads) config) :
    RegistryInvariant hashSchemaText config := by
  refine run.invariant (registryInvariant_initial threads) ?_
  intro state next label inv _ stepped
  exact ⟨inv.ownership.step stepped, .step inv.ownership inv.recorded stepped,
    .step inv.ownership inv.awaited stepped, never_lost_step inv.ownership inv.neverLost stepped⟩

structure SingleFlight (hashSchemaText : String → Hash) (config : Config Hash) : Prop where
  oneInFlight : ∀ (first second : Nat) (one other : DefinitionRequest),
    config.threads[first]? = some (.inFlight one) → config.threads[second]? = some (.inFlight other) →
    one.dedupeKey = other.dedupeKey → first = second
  noneAfterSuccess : NoneAfterSuccess config.shared.calls
  returned : ∀ (thread : Nat) (request : DefinitionRequest) (id : DataTrackSchemaId),
    config.threads[thread]? = some (.returned request (some id)) →
    id = request.schemaId ∧
      Defined hashSchemaText config.shared.calls request.dedupeKey (hashSchemaText request.schemaText)
  undefinedEntry : ∀ key : String,
    (∃ hash, config.shared.definedSchemas.lookup key = some ⟨hash, false⟩) ↔
      ∃! thread, ∃ request, Owns config thread request ∧ request.dedupeKey = key
  entryFound : ∀ (thread : Nat) (request : DefinitionRequest) (outcome : Outcome),
    config.threads[thread]? = some (.recording request outcome) →
    (config.shared.definedSchemas.lookup request.dedupeKey).isSome = true
  neverLost : ∀ (thread : Nat) (request : DefinitionRequest),
    config.threads[thread]? ≠ some (.lost request)
  waiterHasOwner : ∀ (thread : Nat) (request : DefinitionRequest),
    config.threads[thread]? = some (.waiting request config.shared.notifications) →
    Owned config request.dedupeKey

theorem RegistryInvariant.singleFlight {config : Config Hash}
    (inv : RegistryInvariant hashSchemaText config) : SingleFlight hashSchemaText config := by
  refine ⟨?_, inv.recorded.ordered, ?_, ?_, ?_, inv.neverLost, ?_⟩
  · intro first second one other here there same
    exact inv.ownership.exclusive ⟨_, here, rfl⟩ ⟨_, there, rfl⟩ same
  · intro thread request id found
    exact inv.recorded.returned found
  · intro key
    constructor
    · intro known
      obtain ⟨hash, found⟩ := known
      obtain ⟨thread, request, owns, same⟩ := inv.ownership.owner found
      refine ⟨thread, ⟨request, owns, same⟩, ?_⟩
      intro other owner
      obtain ⟨held, others, sameKey⟩ := owner
      exact inv.ownership.exclusive others owns (sameKey.trans same.symm)
    · intro owner
      obtain ⟨thread, ⟨request, owns, rfl⟩, _⟩ := owner
      exact ⟨_, inv.ownership.entry owns⟩
  · intro thread request outcome found
    rw [inv.ownership.entry ⟨_, found, rfl⟩]
    rfl
  · intro thread request found
    exact inv.awaited.owned found

/-- In every state of every run registration is single-flight, and recording a
failed definition leaves no entry. -/
theorem registration_single_flight [DecidableEq Hash] (hashSchemaText : String → Hash)
    (threads : Nat) {config : Config Hash}
    (reached : (program hashSchemaText).machine.Reaches (initial Hash threads) config) :
    SingleFlight hashSchemaText config ∧
      ∀ (label : Nat × Choice) (next : Config Hash),
        (program hashSchemaText).machine.step? config label = some next →
        ∀ (request : DefinitionRequest) (outcome : Outcome),
          config.threads[label.1]? = some (.recording request outcome) → outcome.defined = false →
          next.shared.definedSchemas.lookup request.dedupeKey = none := by
  have inv := registryInvariant_of_run reached
  refine ⟨inv.singleFlight, ?_⟩
  intro label next stepped request outcome found rejected
  obtain ⟨before, after, step, transition⟩ := step_transition stepped
  rw [step.running] at found
  cases found
  obtain ⟨thread, choice⟩ := label
  obtain ⟨registry, controls⟩ := next
  change Transition hashSchemaText config.shared _ choice registry after at transition
  cases transition with
  | notRendered outside | requested outside => cases outside
  | lost absent => exact absent
  | defined _ accepted =>
      rw [rejected] at accepted
      cases accepted
  | failed => exact AList.lookup_erase _ _

/-- Two callers of one type: the second is blocked while the first is defining. -/
theorem registration_single_flight_of_two :
    ∃ config, config.threads[1]? = some (.waiting
        ⟨"pkg/msg/T", .ros2Msg, "int32 x", .ros2Msg, "ros2msg"⟩ config.shared.notifications) ∧
      SingleFlight id config := by
  obtain ⟨config, reached, blocked⟩ := Machine.Reaches.exists_of_exec (program (id : String → String)).machine
    (initial String 2)
    [(0, .call "pkg/msg/T" .ros2Msg none (some ⟨"ros2msg", "int32 x"⟩)), (0, .proceed), (0, .proceed),
      (1, .call "pkg/msg/T" .ros2Msg none (some ⟨"ros2msg", "int32 x"⟩)), (1, .proceed)]
    (fun config => config.threads[1]? = some (.waiting
      ⟨"pkg/msg/T", .ros2Msg, "int32 x", .ros2Msg, "ros2msg"⟩ config.shared.notifications))
    (by decide +kernel)
  exact ⟨config, blocked, (registration_single_flight id 2 reached).1⟩

end RosPortal.Schema
