import RosPortal.Schema.Manager

/-! Who owns an entry. The entry of a key is undefined exactly while one caller owns
it, from inserting it to recording how its `define_schema` call ended. -/

set_option autoImplicit false

namespace RosPortal.Schema

open Interleaving

variable {Hash : Type} {hashSchemaText : String → Hash}

def Control.outside : Control → Bool
  | .idle | .returned _ _ | .notRendered _ => true
  | _ => false

/-- The request whose entry this caller has inserted and not yet recorded. -/
def Control.owned? : Control → Option DefinitionRequest
  | .calling request | .inFlight request | .recording request _ => some request
  | _ => none

/-- The steps of a caller, one constructor for each way a step can end. -/
inductive Transition (hashSchemaText : String → Hash) (registry : Registry Hash) :
    Control → Choice → Registry Hash → Control → Prop where
  | notRendered {before : Control} {topicType : String} {encoding : OutboundEncoding}
      {renderedJson : Option String} {rendered : Option RosMessageSchema} {failure : RenderFailure} :
      before.outside = true →
      requestDefinition topicType encoding renderedJson rendered = .error failure →
      Transition hashSchemaText registry before (.call topicType encoding renderedJson rendered)
        registry (.notRendered failure)
  | requested {before : Control} {topicType : String} {encoding : OutboundEncoding}
      {renderedJson : Option String} {rendered : Option RosMessageSchema}
      {request : DefinitionRequest} :
      before.outside = true →
      requestDefinition topicType encoding renderedJson rendered = .ok request →
      Transition hashSchemaText registry before (.call topicType encoding renderedJson rendered)
        registry (.locking request)
  | inserted {request : DefinitionRequest} :
      registry.definedSchemas.lookup request.dedupeKey = none →
      Transition hashSchemaText registry (.locking request) .proceed
        { registry with
          definedSchemas := registry.definedSchemas.insert request.dedupeKey
            ⟨hashSchemaText request.schemaText, false⟩ }
        (.calling request)
  | mismatched {request : DefinitionRequest} :
      Transition hashSchemaText registry (.locking request) .proceed registry (.returned request none)
  | alreadyDefined {request : DefinitionRequest} :
      registry.definedSchemas.lookup request.dedupeKey =
        some ⟨hashSchemaText request.schemaText, true⟩ →
      Transition hashSchemaText registry (.locking request) .proceed registry
        (.returned request (some request.schemaId))
  | blocked {request : DefinitionRequest} :
      registry.definedSchemas.lookup request.dedupeKey =
        some ⟨hashSchemaText request.schemaText, false⟩ →
      Transition hashSchemaText registry (.locking request) .proceed registry
        (.waiting request registry.notifications)
  | woke {request : DefinitionRequest} {since : Nat} :
      Transition hashSchemaText registry (.waiting request since) .proceed registry (.locking request)
  | started {request : DefinitionRequest} :
      Transition hashSchemaText registry (.calling request) .proceed
        { registry with calls := .started request :: registry.calls } (.inFlight request)
  | finished {request : DefinitionRequest} {outcome : Outcome} :
      Transition hashSchemaText registry (.inFlight request) (.finish outcome)
        { registry with calls := .finished request outcome :: registry.calls }
        (.recording request outcome)
  | lost {request : DefinitionRequest} {outcome : Outcome} :
      registry.definedSchemas.lookup request.dedupeKey = none →
      Transition hashSchemaText registry (.recording request outcome) .proceed registry (.lost request)
  | defined {request : DefinitionRequest} {outcome : Outcome} {state : DefinitionState Hash} :
      registry.definedSchemas.lookup request.dedupeKey = some state → outcome.defined = true →
      Transition hashSchemaText registry (.recording request outcome) .proceed
        { registry with
          definedSchemas := registry.definedSchemas.insert request.dedupeKey
            { state with defined := true }
          notifications := registry.notifications + 1 }
        (.returned request (some request.schemaId))
  | failed {request : DefinitionRequest} {outcome : Outcome} :
      outcome.defined = false →
      Transition hashSchemaText registry (.recording request outcome) .proceed
        { registry with
          definedSchemas := registry.definedSchemas.erase request.dedupeKey
          notifications := registry.notifications + 1 }
        (.returned request none)

private theorem beginCall_transition {registry : Registry Hash} {before : Control}
    (outside : before.outside = true) (topicType : String) (encoding : OutboundEncoding)
    (renderedJson : Option String) (rendered : Option RosMessageSchema) :
    Transition hashSchemaText registry before (.call topicType encoding renderedJson rendered)
      registry (beginCall topicType encoding renderedJson rendered) := by
  unfold beginCall
  cases worked : requestDefinition topicType encoding renderedJson rendered with
  | error failure => exact .notRendered outside worked
  | ok request => exact .requested outside worked

private theorem claim_transition [DecidableEq Hash] (hashSchemaText : String → Hash)
    (registry : Registry Hash) (request : DefinitionRequest) :
    Transition hashSchemaText registry (.locking request) .proceed
      (claim hashSchemaText registry request).1 (claim hashSchemaText registry request).2 := by
  unfold claim
  cases found : registry.definedSchemas.lookup request.dedupeKey with
  | none => exact .inserted found
  | some existing =>
      obtain ⟨hash, defined⟩ := existing
      by_cases same : hash = hashSchemaText request.schemaText
      · subst hash
        cases defined with
        | true => simpa using .alreadyDefined found
        | false => simpa using .blocked found
      · simpa [same] using .mismatched

private theorem recordOutcome_transition (hashSchemaText : String → Hash) (registry : Registry Hash)
    (request : DefinitionRequest) (outcome : Outcome) :
    Transition hashSchemaText registry (.recording request outcome) .proceed
      (recordOutcome registry request outcome).1 (recordOutcome registry request outcome).2 := by
  unfold recordOutcome
  cases found : registry.definedSchemas.lookup request.dedupeKey with
  | none => exact .lost found
  | some state =>
      cases defined : outcome.defined with
      | true => simpa using .defined found defined
      | false => simpa using .failed defined

theorem advance_transition [DecidableEq Hash] {registry next : Registry Hash} {before after : Control} {choice : Choice}
    (advanced : advance hashSchemaText registry before choice = some (next, after)) :
    Transition hashSchemaText registry before choice next after := by
  cases before with
  | idle | returned request result | notRendered failure =>
      cases choice with
      | call topicType encoding renderedJson rendered =>
          cases advanced
          exact beginCall_transition rfl topicType encoding renderedJson rendered
      | proceed | finish outcome => simp [advance] at advanced
  | locking request =>
      cases choice with
      | proceed =>
          simp only [advance, Option.some.injEq] at advanced
          have moved := claim_transition hashSchemaText registry request
          rw [advanced] at moved
          exact moved
      | call topicType encoding renderedJson rendered | finish outcome => simp [advance] at advanced
  | waiting request since =>
      cases choice with
      | proceed =>
          cases advanced
          exact .woke
      | call topicType encoding renderedJson rendered | finish outcome => simp [advance] at advanced
  | calling request =>
      cases choice with
      | proceed =>
          cases advanced
          exact .started
      | call topicType encoding renderedJson rendered | finish outcome => simp [advance] at advanced
  | inFlight request =>
      cases choice with
      | finish outcome =>
          cases advanced
          exact .finished
      | call topicType encoding renderedJson rendered | proceed => simp [advance] at advanced
  | recording request outcome =>
      cases choice with
      | proceed =>
          simp only [advance, Option.some.injEq] at advanced
          have moved := recordOutcome_transition hashSchemaText registry request outcome
          rw [advanced] at moved
          exact moved
      | call topicType encoding renderedJson rendered | finish outcome => simp [advance] at advanced
  | lost request => cases choice <;> simp [advance] at advanced

def Owns (config : Config Hash) (thread : Nat) (request : DefinitionRequest) : Prop :=
  ∃ control, config.threads[thread]? = some control ∧ control.owned? = some request

def Owned (config : Config Hash) (key : String) : Prop :=
  ∃ thread request, Owns config thread request ∧ request.dedupeKey = key

/-- An entry is undefined exactly while one caller owns it. -/
structure Ownership (hashSchemaText : String → Hash) (config : Config Hash) : Prop where
  entry : ∀ {thread : Nat} {request : DefinitionRequest}, Owns config thread request →
    config.shared.definedSchemas.lookup request.dedupeKey =
      some ⟨hashSchemaText request.schemaText, false⟩
  owner : ∀ {key : String} {hash : Hash},
    config.shared.definedSchemas.lookup key = some ⟨hash, false⟩ → Owned config key
  exclusive : ∀ {first second : Nat} {one other : DefinitionRequest}, Owns config first one →
    Owns config second other → one.dedupeKey = other.dedupeKey → first = second

section Step

variable [DecidableEq Hash] {config next : Config Hash} {thread : Nat} {choice : Choice} {before after : Control}

theorem owns_after (step : (program hashSchemaText).StepOf config thread choice next before after)
    {other : Nat} {request : DefinitionRequest} (owns : Owns next other request) :
    (other = thread ∧ after.owned? = some request) ∨ (other ≠ thread ∧ Owns config other request) := by
  obtain ⟨control, found, holds⟩ := owns
  rcases step.thread_cases found with ⟨same, rfl⟩ | ⟨different, earlier⟩
  · exact .inl ⟨same, holds⟩
  · exact .inr ⟨different, control, earlier, holds⟩

theorem owns_kept (step : (program hashSchemaText).StepOf config thread choice next before after)
    {other : Nat} {request : DefinitionRequest} (owns : Owns config other request)
    (still : before.owned? = some request → after.owned? = some request) :
    Owns next other request := by
  obtain ⟨control, found, holds⟩ := owns
  by_cases same : other = thread
  · subst other
    rw [step.running] at found
    cases found
    exact ⟨after, step.advancedTo, still holds⟩
  · exact ⟨control, (step.others other same).trans found, holds⟩

theorem owned_kept (step : (program hashSchemaText).StepOf config thread choice next before after)
    {key : String} (owned : Owned config key)
    (still : ∀ request, before.owned? = some request → after.owned? = some request) :
    Owned next key := by
  obtain ⟨other, request, owns, same⟩ := owned
  exact ⟨other, request, owns_kept step owns (still request), same⟩

theorem Ownership.quiet (inv : Ownership hashSchemaText config)
    (step : (program hashSchemaText).StepOf config thread choice next before after)
    (sameEntries : next.shared.definedSchemas = config.shared.definedSchemas)
    (sameOwned : after.owned? = before.owned?) : Ownership hashSchemaText next := by
  have earlier : ∀ {other : Nat} {request : DefinitionRequest}, Owns next other request →
      Owns config other request := by
    intro other request owns
    rcases owns_after step owns with ⟨rfl, holds⟩ | ⟨_, before⟩
    · exact ⟨_, step.running, sameOwned ▸ holds⟩
    · exact before
  constructor
  · intro other request owns
    rw [sameEntries]
    exact inv.entry (earlier owns)
  · intro key hash found
    rw [sameEntries] at found
    exact owned_kept step (inv.owner found) fun request holds => sameOwned.trans holds
  · intro first second one other owns others same
    exact inv.exclusive (earlier owns) (earlier others) same

theorem Ownership.acquired (inv : Ownership hashSchemaText config)
    (step : (program hashSchemaText).StepOf config thread choice next before after)
    {request : DefinitionRequest}
    (absent : config.shared.definedSchemas.lookup request.dedupeKey = none)
    (inserted : next.shared.definedSchemas = config.shared.definedSchemas.insert request.dedupeKey
      ⟨hashSchemaText request.schemaText, false⟩)
    (free : before.owned? = none) (acquired : after.owned? = some request) :
    Ownership hashSchemaText next := by
  have apart : ∀ {other : Nat} {held : DefinitionRequest}, Owns config other held →
      held.dedupeKey ≠ request.dedupeKey := by
    intro other held owns same
    have entry := inv.entry owns
    rw [same, absent] at entry
    cases entry
  constructor
  · intro other held owns
    rw [inserted]
    rcases owns_after step owns with ⟨_, holds⟩ | ⟨_, earlier⟩
    · cases acquired.symm.trans holds
      exact AList.lookup_insert _
    · rw [AList.lookup_insert_ne (apart earlier)]
      exact inv.entry earlier
  · intro key hash found
    rw [inserted] at found
    by_cases same : key = request.dedupeKey
    · exact ⟨thread, request, ⟨after, step.advancedTo, acquired⟩, same.symm⟩
    · rw [AList.lookup_insert_ne same] at found
      refine owned_kept step (inv.owner found) ?_
      intro held holds
      rw [free] at holds
      cases holds
  · intro first second one other owns others same
    rcases owns_after step owns with ⟨rfl, holds⟩ | ⟨_, earlier⟩ <;>
      rcases owns_after step others with ⟨rfl, held⟩ | ⟨_, before⟩
    · rfl
    · cases acquired.symm.trans holds
      exact absurd same.symm (apart before)
    · cases acquired.symm.trans held
      exact absurd same (apart earlier)
    · exact inv.exclusive earlier before same

theorem Ownership.released (inv : Ownership hashSchemaText config)
    (step : (program hashSchemaText).StepOf config thread choice next before after)
    {request : DefinitionRequest}
    (settled : ∀ hash, next.shared.definedSchemas.lookup request.dedupeKey ≠ some ⟨hash, false⟩)
    (frame : ∀ key, key ≠ request.dedupeKey →
      next.shared.definedSchemas.lookup key = config.shared.definedSchemas.lookup key)
    (owned : before.owned? = some request) (released : after.owned? = none) :
    Ownership hashSchemaText next := by
  have running : Owns config thread request := ⟨before, step.running, owned⟩
  have earlier : ∀ {other : Nat} {held : DefinitionRequest}, Owns next other held →
      Owns config other held ∧ held.dedupeKey ≠ request.dedupeKey := by
    intro other held owns
    rcases owns_after step owns with ⟨_, holds⟩ | ⟨different, before⟩
    · cases released.symm.trans holds
    · exact ⟨before, fun same => different (inv.exclusive before running same)⟩
  constructor
  · intro other held owns
    obtain ⟨before, apart⟩ := earlier owns
    rw [frame _ apart]
    exact inv.entry before
  · intro key hash found
    by_cases same : key = request.dedupeKey
    · subst same
      exact absurd found (settled hash)
    · rw [frame key same] at found
      obtain ⟨other, held, owns, sameKey⟩ := inv.owner found
      refine ⟨other, held, owns_kept step owns ?_, sameKey⟩
      intro holds
      cases owned.symm.trans holds
      exact absurd sameKey.symm same
  · intro first second one other owns others same
    exact inv.exclusive (earlier owns).1 (earlier others).1 same

end Step

theorem step_transition [DecidableEq Hash] {config next : Config Hash} {label : Nat × Choice}
    (stepped : (program hashSchemaText).machine.step? config label = some next) :
    ∃ before after, (program hashSchemaText).StepOf config label.1 label.2 next before after ∧
      Transition hashSchemaText config.shared before label.2 next.shared after := by
  obtain ⟨before, after, step⟩ := Program.stepOf stepped
  exact ⟨before, after, step, advance_transition step.advanced⟩

theorem outside_owns_nothing {control : Control} (outside : control.outside = true) :
    control.owned? = none := by
  cases control <;> simp_all [Control.outside, Control.owned?]

theorem Ownership.step [DecidableEq Hash] {config next : Config Hash} {label : Nat × Choice}
    (inv : Ownership hashSchemaText config)
    (stepped : (program hashSchemaText).machine.step? config label = some next) :
    Ownership hashSchemaText next := by
  obtain ⟨before, after, step, transition⟩ := step_transition stepped
  obtain ⟨thread, choice⟩ := label
  obtain ⟨registry, threads⟩ := next
  change Transition hashSchemaText config.shared before choice registry after at transition
  cases transition with
  | notRendered outside | requested outside =>
      exact inv.quiet step rfl (outside_owns_nothing outside).symm
  | mismatched | alreadyDefined | blocked | woke | started | finished =>
      exact inv.quiet step rfl rfl
  | inserted absent => exact inv.acquired step absent rfl rfl rfl
  | lost absent =>
      have entry := inv.entry ⟨_, step.running, rfl⟩
      rw [absent] at entry
      cases entry
  | defined found accepted =>
      refine inv.released step ?_ ?_ rfl rfl
      · intro hash
        simp
      · intro key different
        exact AList.lookup_insert_ne different
  | failed rejected =>
      refine inv.released step ?_ ?_ rfl rfl
      · intro hash
        simp
      · intro key different
        exact AList.lookup_erase_ne different

theorem ownership_initial (threads : Nat) : Ownership hashSchemaText (initial Hash threads) := by
  have nobody : ∀ {thread : Nat} {request : DefinitionRequest},
      ¬ Owns (initial Hash threads) thread request := by
    rintro thread request ⟨control, found, holds⟩
    simp only [initial, List.getElem?_replicate, Option.ite_none_right_eq_some, Option.some.injEq] at found
    obtain ⟨_, rfl⟩ := found
    cases holds
  constructor
  · intro thread request owns
    exact absurd owns nobody
  · intro key hash found
    simp [initial] at found
  · intro first second one other owns _ _
    exact absurd owns nobody

end RosPortal.Schema
