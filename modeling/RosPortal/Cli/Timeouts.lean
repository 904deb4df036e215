import RosPortal.Cli.Converters

/-! The timeout of a service call. It is clamped to eight bits after it has been narrowed
to an `int` of 32 bits. -/

set_option autoImplicit false

namespace RosPortal.Cli

open JsonText

def clamped (timeout : Int) : UInt8 :=
  if timeout < 0 then 0 else if 255 < timeout then 255 else UInt8.ofNat timeout.toNat

/-- What the lowest 32 bits of a timeout out of range must be to be clamped to the same end:
no positive `int` for a negative timeout, and one from 255 on for a large one. -/
def NarrowsToSameEnd (timeout : Int) : Prop :=
  (timeout < 0 → timeout % 4294967296 = 0 ∨ 2147483648 ≤ timeout % 4294967296) ∧
    (255 < timeout → 255 ≤ timeout % 4294967296 ∧ timeout % 4294967296 < 2147483648)

instance (timeout : Int) : Decidable (NarrowsToSameEnd timeout) :=
  inferInstanceAs (Decidable (_ ∧ _))

theorem clamped_eq (timeout : Int) : clamped timeout = clampTimeout timeout := by
  unfold clamped clampTimeout
  split_ifs with negative large
  · rw [show (min (max timeout 0) 255).toNat = 0 by omega]
    rfl
  · rw [show (min (max timeout 0) 255).toNat = 255 by omega]
    rfl
  · rw [show (min (max timeout 0) 255).toNat = timeout.toNat by omega]

theorem clampTimeout_eq_iff (first second : Int) :
    clampTimeout first = clampTimeout second ↔
      min (max first 0) 255 = min (max second 0) 255 := by
  constructor
  · intro same
    have values := congrArg UInt8.toNat same
    simp only [clampTimeout, UInt8.toNat_ofNat'] at values
    omega
  · intro same
    rw [clampTimeout, clampTimeout, same]

theorem clampTimeout_narrowed_iff (timeout : Int) :
    clampTimeout (toInt32 timeout) = clamped timeout ↔ NarrowsToSameEnd timeout := by
  rw [clamped_eq, clampTimeout_eq_iff, NarrowsToSameEnd, toInt32]
  omega

/-- A timeout that is stored as an integer of 64 bits is clamped to the range of eight bits
exactly when narrowing it to 32 bits first keeps it on the same side. -/
theorem timeout_clamped_iff {codec : Codec} {conversions : Conversions}
    (narrows : conversions.Narrows) {payload : Bytes} {request : Value}
    (parsed : codec.parse payload = .ok request)
    (texts : ∀ key ∈ ["service", "msg_type", "payload"], RequiredText request key) {timeout : Int}
    (low : -9223372036854775808 ≤ timeout) (high : timeout < 18446744073709551616)
    (found : request.find? (ascii "timeout_sec") = some (.integer timeout)) :
    (∃ options, serviceCallOptionsFromJson codec conversions payload = .ok options ∧
      options.timeoutSec = clamped timeout) ↔ NarrowsToSameEnd timeout := by
  simp only [List.forall_mem_cons] at texts
  obtain ⟨⟨service, serviceFound, serviceVisible⟩, ⟨msgType, typeFound, typeVisible⟩,
    ⟨message, messageFound, messageVisible⟩, _⟩ := texts
  have visible : ∀ text ∈ [service, msgType, message], ¬ Blank text := by
    simp only [List.forall_mem_cons]
    exact ⟨mt trim_eq_nil_iff.mpr serviceVisible, mt trim_eq_nil_iff.mpr typeVisible,
      mt trim_eq_nil_iff.mpr messageVisible, by simp⟩
  have read := serviceCallOptionsFromJson_of_parse narrows parsed serviceFound typeFound messageFound
    visible low high found
  rw [← clampTimeout_narrowed_iff, read]
  constructor
  · rintro ⟨_, accepted, same⟩
    cases accepted
    exact same
  · intro same
    exact ⟨_, rfl, same⟩

section Timeouts

def timeoutMembers (timeout : Int) : List (Bytes × Value) :=
  [(ascii "msg_type", .string (ascii "std_srvs/srv/SetBool")),
    (ascii "payload", .string (ascii "data: true")), (ascii "service", .string (ascii "/set_bool")),
    (ascii "timeout_sec", .integer timeout)]

theorem timeoutMembers_parse (timeout : Int) :
    (flatCodec [timeoutMembers timeout]).parse (objectText (timeoutMembers timeout)) =
      .ok (.object (timeoutMembers timeout)) :=
  flatCodec_parse List.mem_cons_self fun _ listed _ => List.mem_singleton.mp listed

theorem timeoutMembers_texts (timeout : Int) :
    ∀ key ∈ ["service", "msg_type", "payload"], RequiredText (.object (timeoutMembers timeout)) key := by
  simp only [List.forall_mem_cons]
  exact ⟨⟨_, rfl, by decide⟩, ⟨_, rfl, by decide⟩, ⟨_, rfl, by decide⟩, by simp⟩

/-- Five minutes become 255 seconds. -/
theorem timeout_clamped_of_five_minutes :
    ∃ options, serviceCallOptionsFromJson (flatCodec [timeoutMembers 300]) narrowingConversions
        (objectText (timeoutMembers 300)) = .ok options ∧ options.timeoutSec = clamped 300 :=
  (timeout_clamped_iff narrowingConversions_narrows (timeoutMembers_parse 300)
    (timeoutMembers_texts 300) (by decide) (by decide) rfl).mpr (by decide)

/-- A timeout of 2 ^ 32 seconds becomes none. -/
theorem timeout_wraps :
    serviceCallOptionsFromJson (flatCodec [timeoutMembers 4294967296]) narrowingConversions
        (objectText (timeoutMembers 4294967296)) =
      .ok ⟨ascii "/set_bool", ascii "std_srvs/srv/SetBool", ascii "data: true", 0⟩ ∧
    clamped 4294967296 = 255 := by
  refine ⟨?_, by decide⟩
  rw [serviceCallOptionsFromJson_of_parse narrowingConversions_narrows
    (timeoutMembers_parse 4294967296) rfl rfl rfl (by decide) (by decide) (by decide) rfl]
  decide

end Timeouts

end RosPortal.Cli
