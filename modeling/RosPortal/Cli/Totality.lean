import RosPortal.Cli.Handlers

/-! When an inbound handler answers. Each builds some of its responses outside its
`try` block, and a response that quotes bytes that are not UTF-8 cannot be dumped. -/

set_option autoImplicit false

namespace RosPortal.Cli

open JsonText

/-- The handler returned a response with the three fields, and one that reports
failure if the request was malformed. -/
def Responds (codec : Codec) (malformed : Prop) (result : Except Bytes Bytes) : Prop :=
  ∃ (response : CliResponse) (text : Bytes), result = .ok text ∧
    codec.dump response.toJson = .ok text ∧ (malformed → response.success = false)

/-- Parsing the payload does not stop inside a character: the token read so far is UTF-8. -/
def StopsBetweenCharacters (codec : Codec) (payload : Bytes) : Prop :=
  ∀ error, codec.parse payload = .error error → validUtf8 error.lastRead = true

section Errors

variable {codec : Codec} {conversions : Conversions}

def PlainErrors {α : Type} (result : Except Bytes α) : Prop :=
  ∀ what, result = .error what → IsAscii what

theorem bind_ok {α β : Type} {first : Except Bytes α} {next : α → Except Bytes β} {result : β}
    (accepted : first >>= next = .ok result) :
    ∃ value, first = .ok value ∧ next value = .ok result := by
  cases first with
  | error what => cases accepted
  | ok value => exact ⟨value, rfl, accepted⟩

theorem PlainErrors.ok {α : Type} (value : α) : PlainErrors (.ok value : Except Bytes α) := by
  intro what failed
  cases failed

theorem PlainErrors.error {α : Type} {what : Bytes} (plain : IsAscii what) :
    PlainErrors (.error what : Except Bytes α) := by
  intro other failed
  cases failed
  exact plain

theorem PlainErrors.bind {α β : Type} {first : Except Bytes α} {next : α → Except Bytes β}
    (before : PlainErrors first) (after : ∀ value, PlainErrors (next value)) :
    PlainErrors (first >>= next) := by
  intro what failed
  cases first with
  | error other =>
      cases failed
      exact before _ rfl
  | ok value => exact after value what failed

theorem plain_getBool (plain : conversions.Plain) (value : Value) :
    PlainErrors (getBool conversions value) := by
  cases value with
  | boolean => exact .ok _
  | null | integer _ | float _ | string _ | array _ | object _ => exact .error (plain.typeError _)

theorem plain_getString (plain : conversions.Plain) (value : Value) :
    PlainErrors (getString conversions value) := by
  cases value with
  | string => exact .ok _
  | null | boolean _ | integer _ | float _ | array _ | object _ => exact .error (plain.typeError _)

theorem plain_getInt (plain : conversions.Plain) (value : Value) :
    PlainErrors (conversions.getInt value) :=
  plain.getInt value

theorem plain_valueOr {α : Type} (plain : conversions.Plain) {get : Value → Except Bytes α}
    (converts : ∀ value, PlainErrors (get value)) (request : Value) (key : String) (default : α) :
    PlainErrors (valueOr conversions request key get default) := by
  cases request with
  | object members =>
      cases found : members.lookup (ascii key) with
      | none =>
          simp only [valueOr, found]
          exact .ok _
      | some member =>
          simp only [valueOr, found]
          exact converts member
  | null | boolean _ | integer _ | float _ | string _ | array _ => exact .error (plain.typeError _)

theorem plain_stringAt (plain : conversions.Plain) (request : Value) (key : String)
    (name : IsAscii (ascii key)) : PlainErrors (stringAt conversions request key) := by
  cases request with
  | object members =>
      cases found : members.lookup (ascii key) with
      | none =>
          simp only [stringAt, found]
          exact .error (plain.missingKey _ name)
      | some member =>
          simp only [stringAt, found]
          exact plain_getString plain member
  | null | boolean _ | integer _ | float _ | string _ | array _ => exact .error (plain.typeError _)

theorem plain_requiredStringField (body : Value) (fieldName missingMessage emptyMessage : String)
    (missing : IsAscii (ascii missingMessage)) (empty : IsAscii (ascii emptyMessage)) :
    PlainErrors (requiredStringField body fieldName missingMessage emptyMessage) := by
  unfold requiredStringField
  split
  · simp only
    split_ifs
    · exact .error empty
    · exact .ok _
  · exact .error missing

/-- How reading a request fails: with the text of the parse error where there is one,
and otherwise in plain text. -/
structure Reports {α : Type} (codec : Codec) (payload : Bytes) (result : Except Bytes α) : Prop where
  parsing : ∀ {error : ParseError}, codec.parse payload = .error error → result = .error error.what
  converting : ∀ {request : Value}, codec.parse payload = .ok request → PlainErrors result

theorem reports_of_parse {α : Type} {payload : Bytes} {convert : Value → Except Bytes α}
    (plain : ∀ request, PlainErrors (convert request)) :
    Reports codec payload (parse codec payload >>= convert) := by
  constructor
  · intro error failed
    simp [parse, failed, bind, Except.bind]
  · intro request parsed
    simpa [parse, parsed, bind, Except.bind] using plain request

end Errors

section Texts

/-! What the handlers return, apart from what they count. -/

variable {codec : Codec}

@[simp] theorem text_thrown (what : Bytes) : (Outcome.thrown what : Outcome (Reply codec)).text = .error what := rfl

@[simp] theorem text_makeInboundRpcResponse (response : CliResponse) :
    (makeInboundRpcResponse codec response).text = cliResponseToJson codec response := by
  unfold Outcome.text makeInboundRpcResponse cliResponseToJson
  simp only
  split
  next text dumped => simp [Except.map, dumped]
  next what threw => simp [Except.map, threw]

@[simp] theorem text_reportFailure (errMsg : Bytes) :
    (reportFailure codec errMsg).text = cliResponseToJson codec (failure errMsg) :=
  text_makeInboundRpcResponse _

variable {outcome : Outcome (Reply codec)} {handler : Bytes → Outcome (Reply codec)}

theorem text_catching_of_ok {text : Bytes} (returned : outcome.text = .ok text) :
    (outcome.catching handler).text = .ok text := by
  unfold Outcome.text Outcome.catching at *
  cases ran : outcome.result with
  | ok reply => rwa [ran] at returned ⊢
  | error what => simp [ran, Except.map] at returned

theorem text_catching_of_error {what : Bytes} (threw : outcome.text = .error what) :
    (outcome.catching handler).text = (handler what).text := by
  unfold Outcome.text Outcome.catching at *
  cases ran : outcome.result with
  | ok reply => simp [ran, Except.map] at threw
  | error other =>
      simp only [ran, Except.map, Except.error.injEq] at threw
      rw [threw]

end Texts

section Responses

variable {codec : Codec}

theorem toJson_utf8_iff {response : CliResponse} :
    response.toJson.Utf8 ↔ validUtf8 response.errMsg = true ∧ validUtf8 response.output = true := by
  constructor
  · intro valid
    constructor
    · exact valid _ (.member List.mem_cons_self .here)
    · exact valid _ (.member (List.mem_cons_of_mem _ List.mem_cons_self) .here)
  · intro response bytes within
    obtain ⟨errMsg, output⟩ := response
    cases within with
    | member listed inner =>
        simp only [List.mem_cons, Prod.mk.injEq, List.not_mem_nil, or_false] at listed
        rcases listed with ⟨_, rfl⟩ | ⟨_, rfl⟩ | ⟨_, rfl⟩
        · cases inner
          exact errMsg
        · cases inner
          exact output
        · cases inner
    | key listed =>
        simp only [List.mem_cons, Prod.mk.injEq, List.not_mem_nil, or_false] at listed
        rcases listed with ⟨rfl, _⟩ | ⟨rfl, _⟩ | ⟨rfl, _⟩ <;> decide

theorem cliResponseToJson_iff (strict : codec.Strict) {response : CliResponse} :
    (∃ text, cliResponseToJson codec response = .ok text) ↔
      validUtf8 response.errMsg = true ∧ validUtf8 response.output = true := by
  rw [← toJson_utf8_iff]
  constructor
  · intro dumps
    obtain ⟨text, dumped⟩ := dumps
    by_contra invalid
    obtain ⟨what, threw, _⟩ := strict.throws invalid
    cases dumped.symm.trans threw
  · exact strict.dumps

theorem failure_iff (strict : codec.Strict) {errMsg : Bytes} :
    (∃ text, cliResponseToJson codec (failure errMsg) = .ok text) ↔ validUtf8 errMsg = true := by
  rw [cliResponseToJson_iff strict]
  exact and_iff_left rfl

theorem responds_failure_iff (strict : codec.Strict) {malformed : Prop} {errMsg : Bytes} :
    Responds codec malformed (cliResponseToJson codec (failure errMsg)) ↔
      validUtf8 errMsg = true := by
  rw [← failure_iff strict]
  constructor
  · intro dumps
    obtain ⟨_, text, returned, _⟩ := dumps
    exact ⟨text, returned⟩
  · intro dumps
    obtain ⟨text, returned⟩ := dumps
    exact ⟨failure errMsg, text, returned, returned, fun _ => rfl⟩

theorem responds_iff (strict : codec.Strict) {malformed : Prop} (wellFormed : ¬ malformed)
    {response : CliResponse} :
    Responds codec malformed (cliResponseToJson codec response) ↔
      validUtf8 response.errMsg = true ∧ validUtf8 response.output = true := by
  rw [← cliResponseToJson_iff strict]
  constructor
  · intro dumps
    obtain ⟨_, text, returned, _⟩ := dumps
    exact ⟨text, returned⟩
  · intro dumps
    obtain ⟨text, returned⟩ := dumps
    exact ⟨response, text, returned, returned, fun malformed => absurd malformed wellFormed⟩

theorem parseError_valid_iff (strict : codec.Strict) {payload : Bytes} {error : ParseError}
    (failed : codec.parse payload = .error error) :
    validUtf8 error.what = true ↔ StopsBetweenCharacters codec payload := by
  rw [strict.what_valid failed]
  constructor
  · intro valid other otherFailed
    cases failed.symm.trans otherFailed
    exact valid
  · intro stops
    exact stops error failed

/-- A request that could not be read is answered exactly when the parser did not stop
inside a character. -/
theorem rejected_valid_iff {α : Type} (strict : codec.Strict) {payload : Bytes}
    {result : Except Bytes α} (reports : Reports codec payload result) {what : Bytes}
    (rejected : result = .error what) :
    validUtf8 what = true ↔ StopsBetweenCharacters codec payload := by
  cases parsed : codec.parse payload with
  | error error =>
      rw [reports.parsing parsed] at rejected
      cases rejected
      exact parseError_valid_iff strict parsed
  | ok request =>
      have plain := valid_ascii (reports.converting parsed what rejected)
      refine iff_of_true plain ?_
      intro error failed
      cases parsed.symm.trans failed

theorem stops_of_accepted {α : Type} {payload : Bytes} {result : Except Bytes α}
    (reports : Reports codec payload result) {value : α} (accepted : result = .ok value) :
    StopsBetweenCharacters codec payload := by
  intro error failed
  cases (reports.parsing failed).symm.trans accepted

/-- A guarded handler answers exactly when the parser stops between characters and
its command throws nothing but UTF-8 text. -/
theorem handleGuarded_responds_iff {Options : Type} (strict : codec.Strict) {payload : Bytes}
    {malformed : Prop} {options : Except Bytes Options} {command : Options → Except Bytes CliResponse}
    (reports : Reports codec payload options)
    (wellFormed : ∀ accepted, options = .ok accepted → ¬ malformed) :
    Responds codec malformed (handleGuarded codec options command).text ↔
      StopsBetweenCharacters codec payload ∧ ∀ accepted what, options = .ok accepted →
        command accepted = .error what → validUtf8 what = true := by
  cases read : options with
  | error what =>
      rw [handleGuarded, text_reportFailure, responds_failure_iff strict, rejected_valid_iff strict reports read]
      simp
  | ok accepted =>
      have stops := stops_of_accepted reports read
      simp only [handleGuarded, stops, true_and, Except.ok.injEq]
      cases ran : command accepted with
      | error what =>
          simp only [text_catching_of_error (text_thrown what), text_reportFailure, responds_failure_iff strict]
          constructor
          · rintro valid _ _ rfl threw
            cases ran.symm.trans threw
            exact valid
          · intro valid
            exact valid accepted what rfl ran
      | ok response =>
          refine iff_of_true ?_ ?_
          · cases dumped : cliResponseToJson codec response with
            | ok text =>
                have returned := (text_makeInboundRpcResponse response).trans dumped
                exact ⟨response, text, text_catching_of_ok returned, dumped, fun bad => absurd bad (wellFormed _ read)⟩
            | error what =>
                have threw := (text_makeInboundRpcResponse response).trans dumped
                rw [text_catching_of_error threw, text_reportFailure]
                have plain : IsAscii what := by
                  by_cases valid : response.toJson.Utf8
                  · obtain ⟨text, written⟩ := strict.dumps valid
                    cases dumped.symm.trans written
                  · obtain ⟨other, threw, plain⟩ := strict.throws valid
                    cases dumped.symm.trans threw
                    exact plain
                exact (responds_failure_iff strict).mpr (valid_ascii plain)
          · rintro _ what rfl threw
            cases ran.symm.trans threw

theorem handleGuarded_map_responds_iff {Options Output : Type} (strict : codec.Strict)
    {payload : Bytes} {malformed : Prop} {options : Except Bytes Options}
    {run : Options → Except Bytes Output} {build : Options → Output → CliResponse}
    (reports : Reports codec payload options)
    (wellFormed : ∀ accepted, options = .ok accepted → ¬ malformed) :
    Responds codec malformed
        (handleGuarded codec options fun accepted => (run accepted).map (build accepted)).text ↔
      StopsBetweenCharacters codec payload ∧ ∀ accepted what, options = .ok accepted →
        run accepted = .error what → validUtf8 what = true := by
  have mapped : ∀ accepted what,
      (run accepted).map (build accepted) = .error what ↔ run accepted = .error what := by
    intro accepted what
    cases run accepted <;> simp [Except.map]
  simp only [handleGuarded_responds_iff strict reports wellFormed, mapped]

end Responses

end RosPortal.Cli
