import RosPortal.Cli.Handlers

/-! What a caller of a remote command uses: the methods of the room session, the
timeouts, and the response read from its JSON. -/

set_option autoImplicit false

namespace RosPortal.Cli

open JsonText

/-- The room session as one call finds it. Any of the methods may throw; an RPC that
fails returns nothing. -/
structure LiveKitMethods where
  isRoomAvailable : Except Bytes Bool
  hasParticipant : Bytes → Except Bytes Bool
  performRpc : Bytes → Bytes → Bytes → UInt8 → Except Bytes (Option Bytes)

def roomNotConnectedError : Bytes := ascii "room not connected"

def defaultTimeoutSec : UInt8 := 10

def serviceCallRpcTimeoutMarginSec : Nat := 1

def effectiveTimeout (timeoutSec : UInt8) : UInt8 :=
  if timeoutSec = 0 then defaultTimeoutSec else timeoutSec

def serviceCallRpcTimeout (serviceTimeoutSec : UInt8) : UInt8 :=
  UInt8.ofNat (min (serviceTimeoutSec.toNat + serviceCallRpcTimeoutMarginSec) 255)

section Parsing

variable (codec : Codec) (conversions : Conversions)

/-- `json::at` followed by a conversion to a Boolean. -/
def booleanAt (request : Value) (key : String) : Except Bytes Bool :=
  match request with
  | .object members =>
      match members.lookup (ascii key) with
      | none => .error (conversions.missingKey (ascii key))
      | some member => getBool conversions member
  | other => .error (conversions.typeError other)

def cliResponseFromJson (payload : Bytes) : Except Bytes CliResponse := do
  let parsed ← parse codec payload
  let success ← booleanAt conversions parsed "success"
  let errMsg ← stringAt conversions parsed "err_msg"
  let output ← stringAt conversions parsed "output"
  return ⟨success, errMsg, output⟩

/-- A response that was dumped is read as it was. -/
theorem cliResponseFromJson_of_parse {codec : Codec} {conversions : Conversions} {payload : Bytes}
    {response : CliResponse} (parsed : codec.parse payload = .ok response.toJson) :
    cliResponseFromJson codec conversions payload = .ok response := by
  have read : parse codec payload = .ok response.toJson := by simp [parse, parsed]
  rw [cliResponseFromJson, read]
  rfl

end Parsing

end RosPortal.Cli
