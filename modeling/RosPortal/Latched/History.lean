import RosPortal.Latched.Forwarder

/-! What has happened to a forwarder, newest first, and the questions the properties ask
about it. Nothing of the code reads a history. -/

set_option autoImplicit false

namespace RosPortal.Latched

/-- Whose publisher a sample came from: `rclcpp::MessageInfo` names it. -/
inductive Publisher where
  | ordinary
  | inbound
deriving DecidableEq, Repr

inductive Event where
  | joined (id : String)
  | left (id : String)
  | received (publisher : Publisher) (sample : Sample)
  | stored (publisher : Publisher) (sample : Sample)
  | cycleStarted
  | roomUnavailable
  | reconciled (enrolled : List String)
  | snapshot (messages : List StoredMessage) (skipped : List String)
  | sent (id : String) (message : StoredMessage)
  | failed (id : String)
  | delivered (id : String) (version : Nat)
  | cycleEnded
deriving DecidableEq, Repr

abbrev History := List Event

namespace History

def stored? : Event → Option Sample
  | .stored _ sample => some sample
  | _ => none

def received? : Event → Option Sample
  | .received _ sample => some sample
  | _ => none

def storedSamples (history : History) : List Sample := history.filterMap stored?

def receivedSamples (history : History) : List Sample := history.filterMap received?

theorem mem_storedSamples {history : History} {sample : Sample} (stored : sample ∈ storedSamples history) :
    ∃ publisher, .stored publisher sample ∈ history := by
  obtain ⟨event, member, same⟩ := List.mem_filterMap.mp stored
  cases event with
  | stored publisher other =>
      cases same
      exact ⟨publisher, member⟩
  | _ => cases same

def newest (topic : String) (history : History) : Option Sample :=
  (receivedSamples history).find? fun sample => sample.topic = topic

/-- The newest of the topic among the last samples stored, as many as the limit allows. -/
def newestRetained (limit : Nat) (topic : String) (history : History) : Option Sample :=
  ((storedSamples history).take limit).find? fun sample => sample.topic = topic

/-- What was sent to the peer since its roster entry was created. -/
def sentInMembership (id : String) : History → List StoredMessage
  | [] => []
  | .reconciled enrolled :: earlier => if id ∈ enrolled then [] else sentInMembership id earlier
  | .sent peer message :: earlier =>
      if peer = id then message :: sentInMembership id earlier else sentInMembership id earlier
  | _ :: earlier => sentInMembership id earlier

/-- The last version delivered to the peer since its roster entry was created. -/
def deliveredVersion (id : String) : History → Nat
  | [] => 0
  | .reconciled enrolled :: earlier => if id ∈ enrolled then 0 else deliveredVersion id earlier
  | .delivered peer version :: earlier =>
      if peer = id then version else deliveredVersion id earlier
  | _ :: earlier => deliveredVersion id earlier

/-- The last payload of the topic sent to the peer since its roster entry was created. -/
def lastSent (topic id : String) (history : History) : Option Request :=
  ((sentInMembership id history).find? fun message => message.request.topic = topic).map
    StoredMessage.request

/-- What was sent to the peer since it last joined the room. -/
def sentInStay (id : String) : History → List StoredMessage
  | [] => []
  | .joined peer :: earlier => if peer = id then [] else sentInStay id earlier
  | .sent peer message :: earlier =>
      if peer = id then message :: sentInStay id earlier else sentInStay id earlier
  | _ :: earlier => sentInStay id earlier

def present (id : String) : History → Bool
  | [] => false
  | .joined peer :: earlier => peer = id || present id earlier
  | .left peer :: earlier => peer ≠ id && present id earlier
  | _ :: earlier => present id earlier

def lastCycle : History → History
  | [] => []
  | .cycleStarted :: _ => []
  | event :: earlier => event :: lastCycle earlier

/-- The peer was in the room when the last cycle started and neither left nor joined since. -/
def steady (id : String) : History → Bool
  | [] => false
  | .cycleStarted :: earlier => present id earlier
  | .joined peer :: earlier => peer ≠ id && steady id earlier
  | .left peer :: earlier => peer ≠ id && steady id earlier
  | _ :: earlier => steady id earlier

/-- The peer's roster entry was created since it last joined the room. -/
def enrolledInStay (id : String) : History → Bool
  | [] => false
  | .joined peer :: earlier => peer ≠ id && enrolledInStay id earlier
  | .reconciled enrolled :: earlier => id ∈ enrolled || enrolledInStay id earlier
  | _ :: earlier => enrolledInStay id earlier

/-- A membership that began in the stay lies inside it. -/
theorem sentInMembership_subset {id : String} {history : History}
    (inside : enrolledInStay id history = true) : sentInMembership id history ⊆ sentInStay id history := by
  induction history with
  | nil => cases inside
  | cons event earlier ih =>
      cases event with
      | joined peer =>
          simp only [enrolledInStay, Bool.and_eq_true, decide_eq_true_eq] at inside
          simpa [sentInMembership, sentInStay, inside.1] using ih inside.2
      | reconciled enrolled =>
          by_cases listed : id ∈ enrolled
          · simp [sentInMembership, listed]
          · simp only [enrolledInStay, listed, decide_false, Bool.false_or] at inside
            simpa [sentInMembership, sentInStay, listed] using ih inside
      | sent peer message =>
          by_cases same : peer = id
          · simpa [sentInMembership, sentInStay, same] using
              List.subset_cons_of_subset message (ih inside)
          · simpa [sentInMembership, sentInStay, same] using ih inside
      | _ => exact ih inside

end History

end RosPortal.Latched
