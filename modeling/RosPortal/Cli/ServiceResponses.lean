import RosPortal.Cli.ServiceCall

/-! Which response a call returns: one that carries the number of its own request, whatever
the network does with the responses of other calls. -/

set_option autoImplicit false

namespace RosPortal.Cli.ServiceCall

open JsonText Interleaving

section Steps

variable {Content : Type} {msgType : Bytes} {toYaml : Bytes → Content → Except Bytes (Option Bytes)}

inductive Transition (msgType : Bytes) (toYaml : Bytes → Content → Except Bytes (Option Bytes)) :
    Shared Content → Control Content → Shared Content → Control Content → Prop where
  | networked {shared : Shared Content} {queue sent : List (Response Content)} {now : Nat} :
      shared.sent ⊆ sent → (∀ response ∈ queue, response ∈ shared.queue ∨ response ∈ sent) →
      Transition msgType toYaml shared .network { shared with queue, now, sent } .network
  | refused {shared : Shared Content} {options : ServiceCallOptions} {response : CliResponse} :
      response.success = false →
      Transition msgType toYaml shared (.called options) shared (.returned none (.ok response))
  | prepared {shared : Shared Content} {options : ServiceCallOptions} :
      Transition msgType toYaml shared (.called options) shared (.waiting options)
  | locked {shared : Shared Content} {options : ServiceCallOptions} : shared.locked = false →
      Transition msgType toYaml shared (.waiting options) { shared with locked := true }
        (.sending options)
  | unsent {shared : Shared Content} {options : ServiceCallOptions} {message : Bytes} :
      Transition msgType toYaml shared (.sending options) shared (.leaving none (.ok (failure message)))
  | sent {shared : Shared Content} {options : ServiceCallOptions} {sequenceNumber : Int} {deadline : Nat} :
      sequenceNumber ∉ shared.assigned →
      Transition msgType toYaml shared (.sending options)
        { shared with assigned := sequenceNumber :: shared.assigned } (.polling ⟨sequenceNumber, deadline⟩)
  | polled {shared : Shared Content} {request : Pending} : shared.now < request.deadline →
      Transition msgType toYaml shared (.polling request) shared (.taking request 0 [])
  | failed {shared : Shared Content} {before : Control Content} {request : Pending}
      {result : Except Bytes CliResponse} : before.pending? = some request.sequenceNumber →
      (∀ response, result = .ok response → response.success = false) →
      Transition msgType toYaml shared before shared (.leaving (some request.sequenceNumber) result)
  | nothingTaken {shared : Shared Content} {request : Pending} {attemptCount : UInt8}
      {drained : List (Response Content)} :
      Transition msgType toYaml shared (.taking request attemptCount drained) shared
        (.sleeping request drained)
  | discarded {shared : Shared Content} {request : Pending} {attemptCount : UInt8}
      {drained queue : List (Response Content)} {response : Response Content} :
      shared.queue = response :: queue → response.sequenceNumber ≠ request.sequenceNumber →
      Transition msgType toYaml shared (.taking request attemptCount drained)
        { shared with queue, takes := ⟨request.sequenceNumber, response, true⟩ :: shared.takes }
        (if attemptCount + 1 < maxStaleResponseDrains then
          .taking request (attemptCount + 1) (response :: drained)
        else .sleeping request (response :: drained))
  | answered {shared : Shared Content} {request : Pending} {attemptCount : UInt8}
      {drained queue : List (Response Content)} {response : Response Content} :
      shared.queue = response :: queue → response.sequenceNumber = request.sequenceNumber →
      Transition msgType toYaml shared (.taking request attemptCount drained)
        { shared with queue, takes := ⟨request.sequenceNumber, response, false⟩ :: shared.takes }
        (.leaving (some request.sequenceNumber) (.ok (convertResponse msgType toYaml response.content)))
  | woke {shared : Shared Content} {request : Pending} {drained : List (Response Content)} :
      Transition msgType toYaml shared (.sleeping request drained) shared (.polling request)
  | unlocked {shared : Shared Content} {request : Option Int} {result : Except Bytes CliResponse} :
      Transition msgType toYaml shared (.leaving request result) { shared with locked := false }
        (.returned request result)

theorem prepare_fails {options : ServiceCallOptions} {preparation : Preparation} {response : CliResponse}
    (refused : prepare options preparation = some response) : response.success = false := by
  unfold prepare at refused
  split at refused
  · cases refused
    rfl
  · split at refused
    · cases refused
      rfl
    · split at refused
      · cases refused
        rfl
      · split at refused
        · cases refused
          rfl
        · cases refused

theorem takeResponse_transition (shared : Shared Content) (request : Pending) (attemptCount : UInt8)
    (drained : List (Response Content)) :
    Transition msgType toYaml shared (.taking request attemptCount drained)
      (takeResponse msgType toYaml shared request attemptCount drained).1
      (takeResponse msgType toYaml shared request attemptCount drained).2 := by
  unfold takeResponse
  cases queued : shared.queue with
  | nil => exact .nothingTaken
  | cons response queue =>
      by_cases own : response.sequenceNumber = request.sequenceNumber
      · have step : Transition msgType toYaml shared (.taking request attemptCount drained) _ _ :=
          .answered queued own
        simpa [own] using step
      · have step : Transition msgType toYaml shared (.taking request attemptCount drained) _ _ :=
          .discarded queued own
        split_ifs at step with more
        · simpa [own, more] using step
        · simpa [own, more] using step

theorem advance_transition [DecidableEq Content] {shared shared' : Shared Content}
    {before after : Control Content} {choice : Choice Content}
    (advanced : advance msgType toYaml shared before choice = some (shared', after)) :
    Transition msgType toYaml shared before shared' after := by
  unfold advance at advanced
  split at advanced
  next response =>
    cases advanced
    refine .networked (List.subset_cons_self _ _) ?_
    intro other queued
    rcases List.mem_append.mp queued with earlier | new
    · exact .inl earlier
    · exact .inr (List.mem_singleton.mp new ▸ List.mem_cons_self)
  next queue =>
    split_ifs at advanced with known
    cases advanced
    exact .networked (List.Subset.refl _) fun response queued => .inr (known response queued)
  next period =>
    cases advanced
    exact .networked (List.Subset.refl _) fun response queued => .inl queued
  next options preparation =>
    split at advanced
    next response refused =>
      cases advanced
      exact .refused (prepare_fails refused)
    · cases advanced
      exact .prepared
  next options =>
    split_ifs at advanced with locked
    cases advanced
    exact .locked (by simpa using locked)
  · cases advanced
    exact .unsent
  next options sequenceNumber =>
    split_ifs at advanced with used
    cases advanced
    exact .sent used
  next request =>
    split_ifs at advanced with early
    · cases advanced
      exact .polled early
    · cases advanced
      refine .failed rfl ?_
      rintro response ⟨⟩
      rfl
  next request attemptCount drained =>
    have step : Transition msgType toYaml shared (.taking request attemptCount drained) _ _ :=
      takeResponse_transition shared request attemptCount drained
    rw [Option.some.inj advanced] at step
    exact step
  · cases advanced
    refine .failed rfl ?_
    rintro response ⟨⟩
  · cases advanced
    exact .woke
  · cases advanced
    exact .unlocked
  · cases advanced

end Steps

section Threads

variable {Content : Type} {msgType : Bytes} {toYaml : Bytes → Content → Except Bytes (Option Bytes)}
  {shared shared' : Shared Content} {before after : Control Content}

/-- What was recorded stays recorded, and nothing is in the reader that was not sent. -/
theorem Transition.grows (transition : Transition msgType toYaml shared before shared' after) :
    shared.assigned ⊆ shared'.assigned ∧ shared.sent ⊆ shared'.sent ∧
      ∀ response ∈ shared'.queue, response ∈ shared.queue ∨ response ∈ shared'.sent := by
  cases transition with
  | networked sent queued => exact ⟨List.Subset.refl _, sent, queued⟩
  | sent _ => exact ⟨List.subset_cons_self _ _, List.Subset.refl _, fun _ queued => .inl queued⟩
  | discarded found _ | answered found _ =>
      refine ⟨List.Subset.refl _, List.Subset.refl _, fun response queued => .inl ?_⟩
      rw [found]
      exact List.mem_cons_of_mem _ queued
  | refused | prepared | locked | unsent | polled | failed | nothingTaken | woke | unlocked =>
      exact ⟨List.Subset.refl _, List.Subset.refl _, fun _ queued => .inl queued⟩

theorem Transition.request_cases (transition : Transition msgType toYaml shared before shared' after) :
    after.request? = before.request? ∨ ∃ sequenceNumber, after.request? = some sequenceNumber ∧
      sequenceNumber ∉ shared.assigned ∧ sequenceNumber ∈ shared'.assigned := by
  cases transition with
  | sent unused => exact .inr ⟨_, rfl, unused, List.mem_cons_self⟩
  | @failed before request result pending _ =>
      left
      cases before <;> first | cases pending | exact pending.symm
  | @discarded request attemptCount drained queue response _ _ =>
      left
      split_ifs <;> rfl
  | networked | refused | prepared | locked | unsent | polled | nothingTaken | answered | woke
  | unlocked => exact .inl rfl

theorem Transition.result_kept (transition : Transition msgType toYaml shared before shared' after)
    {result : Except Bytes CliResponse} (ended : before.result? = some result) :
    after.result? = some result ∧ after.request? = before.request? := by
  cases transition with
  | @failed before request result pending _ =>
      cases before <;> first | cases pending | cases ended
  | unlocked => exact ⟨ended, rfl⟩
  | networked | refused | prepared | locked | unsent | sent | polled | nothingTaken | discarded
  | answered | woke => cases ended

/-- A response that is taken is for the pending request, and then the call ends with it, or it
is for another and discarded. -/
theorem Transition.takes_cases (transition : Transition msgType toYaml shared before shared' after) :
    shared'.takes = shared.takes ∨ ∃ taken, shared'.takes = taken :: shared.takes ∧
      before.pending? = some taken.request ∧
        ((taken.discarded = true ∧ taken.response.sequenceNumber ≠ taken.request) ∨
          (taken.discarded = false ∧ taken.response.sequenceNumber = taken.request ∧
            after.request? = some taken.request ∧
            after.result? = some (.ok (convertResponse msgType toYaml taken.response.content)))) := by
  cases transition with
  | discarded _ other => exact .inr ⟨_, rfl, rfl, .inl ⟨rfl, other⟩⟩
  | answered _ own => exact .inr ⟨_, rfl, rfl, .inr ⟨rfl, own, rfl, rfl⟩⟩
  | networked | refused | prepared | locked | unsent | sent | polled | failed | nothingTaken | woke
  | unlocked => exact .inl rfl

/-- The request and the responses that its call has discarded in the present `takeResponse`, or
in the last one. -/
def Control.drained? : Control Content → Option (Pending × List (Response Content))
  | .taking request _ drained | .sleeping request drained => some (request, drained)
  | _ => none

structure Control.Sound (msgType : Bytes) (toYaml : Bytes → Content → Except Bytes (Option Bytes))
    (shared : Shared Content) (control : Control Content) : Prop where
  numbered : ∀ sequenceNumber, control.request? = some sequenceNumber → sequenceNumber ∈ shared.assigned
  counted : ∀ request attemptCount drained, control = .taking request attemptCount drained →
    attemptCount.toNat = drained.length ∧ drained.length < maxStaleResponseDrains.toNat
  drains : ∀ request drained, control.drained? = some (request, drained) →
    drained.length ≤ maxStaleResponseDrains.toNat ∧
      ∀ stale ∈ drained, stale.sequenceNumber ≠ request.sequenceNumber
  answered : ∀ response, control.result? = some (.ok response) → response.success = true →
    ∃ answer ∈ shared.sent, control.request? = some answer.sequenceNumber ∧
      convertResponse msgType toYaml answer.content = response

theorem Control.Sound.mono {control : Control Content} (sound : control.Sound msgType toYaml shared)
    (assigned : shared.assigned ⊆ shared'.assigned) (sent : shared.sent ⊆ shared'.sent) :
    control.Sound msgType toYaml shared' where
  numbered sequenceNumber requested := assigned (sound.numbered sequenceNumber requested)
  counted := sound.counted
  drains := sound.drains
  answered response ended succeeded := by
    obtain ⟨answer, delivered, own, converted⟩ := sound.answered response ended succeeded
    exact ⟨answer, sent delivered, own, converted⟩

/-- The responses that a step leaves in the count of stale ones: one more, or none. -/
theorem Transition.drains (transition : Transition msgType toYaml shared before shared' after)
    (sound : before.Sound msgType toYaml shared) {request : Pending} {drained : List (Response Content)}
    (taking : after.drained? = some (request, drained)) :
    drained.length ≤ maxStaleResponseDrains.toNat ∧
      (∀ stale ∈ drained, stale.sequenceNumber ≠ request.sequenceNumber) ∧
      ∀ attemptCount, after = .taking request attemptCount drained →
        attemptCount.toNat = drained.length ∧ drained.length < maxStaleResponseDrains.toNat := by
  cases transition with
  | polled _ =>
      cases taking
      simp [maxStaleResponseDrains]
  | nothingTaken =>
      cases taking
      exact ⟨(sound.drains _ _ rfl).1, (sound.drains _ _ rfl).2, fun _ same => by cases same⟩
  | @discarded waiting attemptCount earlier queue response _ other =>
      obtain ⟨count, below⟩ := sound.counted _ _ _ rfl
      have stale := (sound.drains _ _ rfl).2
      have bound : maxStaleResponseDrains.toNat = 25 := rfl
      have next : (attemptCount + 1).toNat = earlier.length + 1 := by
        rw [UInt8.toNat_add, count]
        have small : earlier.length + 1 < 256 := by omega
        exact Nat.mod_eq_of_lt small
      split_ifs at taking ⊢ with more
      all_goals
        cases taking
        refine ⟨by rw [List.length_cons]; omega, List.forall_mem_cons.mpr ⟨other, stale⟩, ?_⟩
        intro attempts same
        cases same
      rw [UInt8.lt_iff_toNat_lt, next] at more
      exact ⟨next, more⟩
  | networked | refused | prepared | locked | unsent | sent | failed | answered | woke | unlocked =>
      cases taking

theorem Transition.sound (transition : Transition msgType toYaml shared before shared' after)
    (sound : before.Sound msgType toYaml shared) (queued : shared.queue ⊆ shared.sent) :
    after.Sound msgType toYaml shared' where
  numbered := by
    intro sequenceNumber requested
    rcases transition.request_cases with same | ⟨number, fresh, _, assigned⟩
    · exact transition.grows.1 (sound.numbered sequenceNumber (same ▸ requested))
    · rw [fresh] at requested
      exact Option.some.inj requested ▸ assigned
  counted := by
    rintro request attemptCount drained rfl
    exact (transition.drains sound rfl).2.2 attemptCount rfl
  drains := by
    intro request drained taking
    have bounded := transition.drains sound taking
    exact ⟨bounded.1, bounded.2.1⟩
  answered := by
    intro response ended succeeded
    cases transition with
    | refused failed =>
        cases ended
        rw [failed] at succeeded
        cases succeeded
    | unsent =>
        cases ended
        cases succeeded
    | failed pending fails =>
        have failed := fails response (Option.some.inj ended)
        rw [failed] at succeeded
        cases succeeded
    | answered found own =>
        cases ended
        refine ⟨_, queued (found ▸ List.mem_cons_self), ?_, rfl⟩
        rw [own]
        rfl
    | unlocked =>
        exact sound.answered response ended succeeded
    | @discarded request attemptCount drained queue stale _ _ =>
        split_ifs at ended <;> cases ended
    | networked | prepared | locked | sent | polled | nothingTaken | woke => cases ended

end Threads

section Runs

variable {Content : Type} {msgType : Bytes} {toYaml : Bytes → Content → Except Bytes (Option Bytes)}
  {calls : List ServiceCallOptions}

theorem convertResponse_success {content : Content}
    (succeeded : (convertResponse msgType toYaml content).success = true) :
    toYaml (msgType ++ ascii "_Response") content =
      .ok (some (convertResponse msgType toYaml content).output) := by
  unfold convertResponse at succeeded ⊢
  split at succeeded
  next output converted => simp [converted]
  · cases succeeded
  · cases succeeded

theorem convertResponse_of_converted {content : Content} {output : Bytes}
    (converted : toYaml (msgType ++ ascii "_Response") content = .ok (some output)) :
    convertResponse msgType toYaml content = ⟨true, [], output⟩ := by
  rw [convertResponse, converted]

theorem pending_inside {control : Control Content} {sequenceNumber : Int}
    (waits : control.pending? = some sequenceNumber) : control.inside = true := by
  cases control <;> first | rfl | cases waits

structure Invariant (msgType : Bytes) (toYaml : Bytes → Content → Except Bytes (Option Bytes))
    (pool : Pool (Shared Content) (Control Content)) : Prop where
  sound : ∀ control ∈ pool.threads, control.Sound msgType toYaml pool.shared
  queued : pool.shared.queue ⊆ pool.shared.sent
  numbers : ∀ (first second : Nat) (one other : Control Content) (sequenceNumber : Int),
    pool.threads[first]? = some one → pool.threads[second]? = some other →
      one.request? = some sequenceNumber → other.request? = some sequenceNumber → first = second
  discarded : ∀ taken ∈ pool.shared.takes,
    taken.discarded = true ↔ taken.response.sequenceNumber ≠ taken.request
  kept : ∀ taken ∈ pool.shared.takes, taken.discarded = false → ∃ control ∈ pool.threads,
    control.request? = some taken.request ∧
      control.result? = some (.ok (convertResponse msgType toYaml taken.response.content))

theorem Invariant.start : Invariant msgType toYaml (initial calls : Pool (Shared Content) _) := by
  have idle : ∀ control ∈ (initial calls : Pool (Shared Content) _).threads,
      control.request? = none ∧ control.drained? = none ∧ control.result? = none := by
    intro control member
    rcases List.mem_cons.mp member with rfl | member
    · exact ⟨rfl, rfl, rfl⟩
    · obtain ⟨options, _, rfl⟩ := List.mem_map.mp member
      exact ⟨rfl, rfl, rfl⟩
  constructor
  · intro control member
    obtain ⟨unasked, notTaking, running⟩ := idle control member
    constructor
    · simp [unasked]
    · rintro request attemptCount drained rfl
      cases notTaking
    · simp [notTaking]
    · simp [running]
  · exact List.Subset.refl _
  · intro first second one other sequenceNumber found _ requested
    rw [(idle one (List.mem_of_getElem? found)).1] at requested
    cases requested
  · intro taken member
    cases member
  · intro taken member
    cases member

variable [DecidableEq Content]

theorem guards_mutex : (program msgType toYaml).Guards Shared.locked Control.inside := by
  constructor
  · intro shared shared' before after choice advanced outside entered
    cases advance_transition advanced with
    | locked free => exact ⟨free, rfl⟩
    | @failed before request result pending _ =>
        cases before <;> first | cases pending | cases outside
    | networked | refused | prepared | unlocked => cases entered
    | unsent | sent | polled | nothingTaken | discarded | answered | woke => cases outside
  · intro shared shared' before after choice advanced same
    cases advance_transition advanced with
    | locked | unlocked => cases same
    | networked | refused | prepared | unsent | sent | polled | failed | nothingTaken | discarded
    | answered | woke => rfl

theorem Invariant.step {pool next : Pool (Shared Content) (Control Content)} {thread : Nat}
    {choice : Choice Content} {before after : Control Content}
    (inv : Invariant msgType toYaml pool)
    (stepped : (program msgType toYaml).StepOf pool thread choice next before after) :
    Invariant msgType toYaml next := by
  have transition := advance_transition stepped.advanced
  obtain ⟨assigned, sent, queued⟩ := transition.grows
  have running : before ∈ pool.threads := List.mem_of_getElem? stepped.running
  constructor
  · exact stepped.everywhere inv.sound (transition.sound (inv.sound before running) inv.queued)
      fun control sound => sound.mono assigned sent
  · intro response inReader
    rcases queued response inReader with earlier | delivered
    · exact sent (inv.queued earlier)
    · exact delivered
  · -- a new number is none that another call has
    have apart : ∀ (other : Nat) (control : Control Content) (number : Int), other ≠ thread →
        pool.threads[other]? = some control → control.request? = some number →
          after.request? ≠ some number := by
      intro other control number different found requested same
      rcases transition.request_cases with kept | ⟨fresh, gained, unused, _⟩
      · exact different (inv.numbers other thread control before number found stepped.running
          requested (kept ▸ same))
      · rw [gained] at same
        cases same
        exact unused ((inv.sound control (List.mem_of_getElem? found)).numbered _ requested)
    intro first second one other number firstFound secondFound firstNumber secondNumber
    rcases stepped.thread_cases firstFound with ⟨rfl, rfl⟩ | ⟨firstDifferent, firstEarlier⟩ <;>
      rcases stepped.thread_cases secondFound with ⟨rfl, rfl⟩ | ⟨secondDifferent, secondEarlier⟩
    · rfl
    · exact absurd firstNumber (apart _ _ number secondDifferent secondEarlier secondNumber)
    · exact absurd secondNumber (apart _ _ number firstDifferent firstEarlier firstNumber)
    · exact inv.numbers _ _ _ _ number firstEarlier secondEarlier firstNumber secondNumber
  · rcases transition.takes_cases with same | ⟨taken, added, _, fate⟩
    · rw [same]
      exact inv.discarded
    · rw [added, List.forall_mem_cons]
      refine ⟨?_, inv.discarded⟩
      rcases fate with ⟨discarded, other⟩ | ⟨kept, own, _⟩
      · exact iff_of_true discarded other
      · exact iff_of_false (by simp [kept]) (not_not_intro own)
  · -- a call that has ended with a response still has it
    have earlier : ∀ taken ∈ pool.shared.takes, taken.discarded = false → ∃ control ∈ next.threads,
        control.request? = some taken.request ∧
          control.result? = some (.ok (convertResponse msgType toYaml taken.response.content)) := by
      intro taken member kept
      obtain ⟨control, there, requested, ended⟩ := inv.kept taken member kept
      obtain ⟨other, found⟩ := List.mem_iff_getElem?.mp there
      by_cases same : other = thread
      · subst other
        rw [stepped.running] at found
        cases found
        obtain ⟨stillEnded, sameRequest⟩ := transition.result_kept ended
        exact ⟨after, List.mem_of_getElem? stepped.advancedTo, sameRequest.trans requested, stillEnded⟩
      · rw [← stepped.others other same] at found
        exact ⟨control, List.mem_of_getElem? found, requested, ended⟩
    rcases transition.takes_cases with same | ⟨taken, added, _, fate⟩
    · rw [same]
      exact earlier
    · rw [added, List.forall_mem_cons]
      refine ⟨?_, earlier⟩
      intro kept
      rcases fate with ⟨discarded, _⟩ | ⟨_, _, requested, ended⟩
      · rw [discarded] at kept
        cases kept
      · exact ⟨after, List.mem_of_getElem? stepped.advancedTo, requested, ended⟩

theorem invariant_of_reaches {pool : Pool (Shared Content) (Control Content)}
    (reached : (program msgType toYaml).machine.Reaches (initial calls) pool) :
    Invariant msgType toYaml pool := by
  induction reached with
  | refl => exact .start
  | step _ _ stepped inv =>
      obtain ⟨before, after, step⟩ := Program.stepOf stepped
      exact inv.step step

/-- Every call gets the response of its own request, or none. -/
structure AnswersOwn (msgType : Bytes) (toYaml : Bytes → Content → Except Bytes (Option Bytes))
    (pool : Pool (Shared Content) (Control Content)) : Prop where
  /-- A successful call returns the content of a response with the number of its request. -/
  own : ∀ request response, .returned request (.ok response) ∈ pool.threads →
    response.success = true → ∃ answer ∈ pool.shared.sent, request = some answer.sequenceNumber ∧
      toYaml (msgType ++ ascii "_Response") answer.content = .ok (some response.output)
  numbers : ∀ (first second : Nat) (one other : Control Content) (sequenceNumber : Int),
    pool.threads[first]? = some one → pool.threads[second]? = some other →
      one.request? = some sequenceNumber → other.request? = some sequenceNumber → first = second
  discarded : ∀ taken ∈ pool.shared.takes,
    taken.discarded = true ↔ taken.response.sequenceNumber ≠ taken.request
  /-- A response that is not discarded ends the call that took it. -/
  kept : ∀ taken ∈ pool.shared.takes, taken.discarded = false → ∃ control ∈ pool.threads,
    control.request? = some taken.request ∧
      control.result? = some (.ok (convertResponse msgType toYaml taken.response.content))
  /-- If its content has a text, the call succeeds with that text. -/
  succeeds : ∀ taken ∈ pool.shared.takes, taken.discarded = false → ∀ output,
    toYaml (msgType ++ ascii "_Response") taken.response.content = .ok (some output) →
      ∃ control ∈ pool.threads, control.request? = some taken.request ∧
        control.result? = some (.ok ⟨true, [], output⟩)
  drains : ∀ control ∈ pool.threads, ∀ request drained, control.drained? = some (request, drained) →
    drained.length ≤ maxStaleResponseDrains.toNat ∧
      ∀ stale ∈ drained, stale.sequenceNumber ≠ request.sequenceNumber

/-- Whatever the network does and however the calls are interleaved, each gets its own response
or none, and a response that is discarded answers none that is pending. -/
theorem calls_answer_own {pool : Pool (Shared Content) (Control Content)}
    (reached : (program msgType toYaml).machine.Reaches (initial calls) pool) :
    AnswersOwn msgType toYaml pool ∧
      ∀ label next taken, (program msgType toYaml).machine.step? pool label = some next →
        next.shared.takes = taken :: pool.shared.takes → taken.discarded = true →
          ∀ control ∈ pool.threads, control.pending? ≠ some taken.response.sequenceNumber := by
  have inv := invariant_of_reaches reached
  constructor
  · refine ⟨?_, inv.numbers, inv.discarded, inv.kept, ?_, ?_⟩
    · intro request response member succeeded
      obtain ⟨answer, delivered, own, converted⟩ :=
        (inv.sound _ member).answered response rfl succeeded
      refine ⟨answer, delivered, own, ?_⟩
      rw [← converted] at succeeded ⊢
      exact convertResponse_success succeeded
    · intro taken member kept output converted
      obtain ⟨control, there, requested, ended⟩ := inv.kept taken member kept
      rw [convertResponse_of_converted converted] at ended
      exact ⟨control, there, requested, ended⟩
    · intro control member
      exact (inv.sound control member).drains
  · intro label next taken stepped takes discarded control member waits
    obtain ⟨before, after, step⟩ := Program.stepOf stepped
    have outside : (initial calls : Pool (Shared Content) _).Nowhere Control.inside := by
      intro control member
      rcases List.mem_cons.mp member with rfl | member
      · rfl
      · obtain ⟨options, _, rfl⟩ := List.mem_map.mp member
        rfl
    rcases (advance_transition step.advanced).takes_cases with same | ⟨other, added, pending, fate⟩
    · rw [takes] at same
      exact List.cons_ne_self _ _ same
    · rw [takes, List.cons.injEq] at added
      obtain ⟨rfl, _⟩ := added
      rcases fate with ⟨_, foreign⟩ | ⟨kept, _⟩
      · -- the pending call has the mutex, so it is the one that took the response
        obtain ⟨thread, found⟩ := List.mem_iff_getElem?.mp member
        have same := (guards_mutex.exclusive outside reached).alone found step.running
          (pending_inside waits) (pending_inside pending)
        rw [same, step.running] at found
        cases found
        rw [pending] at waits
        exact foreign (Option.some.inj waits).symm
      · rw [kept] at discarded
        cases discarded

/-- The first call times out, and its late response is discarded by the second one. -/
theorem late_response_discarded :
    ∃ pool : Pool (Shared Bytes) (Control Bytes),
      pool.shared.takes = [⟨2, ⟨2, ascii "new"⟩, false⟩, ⟨2, ⟨1, ascii "late"⟩, true⟩] ∧
        AnswersOwn (ascii "std_srvs/srv/Trigger") (fun _ content => .ok (some content)) pool := by
  let options : ServiceCallOptions := ⟨ascii "/reset", ascii "std_srvs/srv/Trigger", ascii "{}", 1⟩
  let ready : Preparation := ⟨.ok (ascii "/reset"), .ok (), .ok ()⟩
  obtain ⟨pool, reached, taken⟩ := Machine.Reaches.exists_of_exec
    (program (ascii "std_srvs/srv/Trigger") fun _ content => .ok (some content)).machine
    (initial [options, options])
    [(1, .prepare ready), (2, .prepare ready), (1, .lock), (1, .send (.ok 1)), (0, .tick 1000000000),
      (1, .checkDeadline), (1, .unlock), (2, .lock), (2, .send (.ok 2)), (0, .deliver ⟨1, ascii "late"⟩),
      (0, .deliver ⟨2, ascii "new"⟩), (2, .checkDeadline), (2, .take), (2, .take), (2, .unlock)]
    (fun pool => pool.shared.takes = [⟨2, ⟨2, ascii "new"⟩, false⟩, ⟨2, ⟨1, ascii "late"⟩, true⟩])
    (by decide +kernel)
  exact ⟨pool, taken, (calls_answer_own reached).1⟩

end Runs

end RosPortal.Cli.ServiceCall
