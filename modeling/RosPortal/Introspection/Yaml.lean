import Mathlib.Data.Fintype.EquivFin
import RosPortal.Introspection.Conversion
import RosPortal.Traversal.DepthFirst

/-! The check of a YAML payload. A loaded document is a graph: an alias is the very node of its
anchor, also while the collection of the anchor is still open. -/

set_option autoImplicit false

namespace RosPortal.Introspection

open JsonText

/-- A node is neither a sequence nor a map if it is a scalar, null or undefined. -/
inductive YamlNode (Reference : Type) where
  | scalar
  | sequence (entries : List Reference)
  | map (entries : List (Reference × Reference))
deriving DecidableEq, Repr

structure YamlDocument where
  size : Nat
  node : Fin size → YamlNode (Fin size)
  root : Fin size

namespace YamlDocument

variable (document : YamlDocument)

/-- The walk of `containsOversizedSequence`. Every call costs a unit of fuel, so no fuel is
enough for a walk that does not return. -/
def containsOversizedSequence : Nat → Fin document.size → Option Bool
  | 0, _ => none
  | fuel + 1, node =>
      match document.node node with
      | .sequence entries =>
          if maxResizableSequenceLength < entries.length then some true
          else DepthFirst.anyOf (containsOversizedSequence fuel) entries
      | .map entries => DepthFirst.anyOf (containsOversizedSequence fuel) (entries.map Prod.snd)
      | .scalar => some false

def oversized (node : Fin document.size) : Bool :=
  match document.node node with
  | .sequence entries => maxResizableSequenceLength < entries.length
  | _ => false

/-- The entries of a sequence and the values of a map, not its keys. -/
def children (node : Fin document.size) : List (Fin document.size) :=
  match document.node node with
  | .scalar => []
  | .sequence entries => entries
  | .map entries => entries.map Prod.snd

theorem containsOversizedSequence_eq_search (fuel : Nat) :
    document.containsOversizedSequence fuel =
      DepthFirst.search document.oversized document.children fuel := by
  induction fuel with
  | zero => rfl
  | succ fuel ih =>
      funext node
      rw [containsOversizedSequence, DepthFirst.search, oversized, children, ih]
      cases document.node node with
      | scalar => rfl
      | sequence entries => simp only [decide_eq_true_eq]
      | map entries => rfl

/-- The walk from the root comes back to a node it is inside of, before it has found a sequence
that is too long. -/
def WalksInCircle : Prop := DepthFirst.Circles document.oversized document.children document.root

theorem walk_returns_iff :
    (∃ fuel, (document.containsOversizedSequence fuel document.root).isSome) ↔ ¬ document.WalksInCircle := by
  simp only [containsOversizedSequence_eq_search]
  exact DepthFirst.exists_search_iff document.root

end YamlDocument

section Payload

/-- `YAML::Load`; a failure is the text of the `YAML::Exception` it throws. -/
abbrev YamlLoad : Type := Bytes → Except Bytes YamlDocument

variable (load : YamlLoad)

def loadPayload (fuel : Nat) (payload : Bytes) : Option (Except Bytes YamlDocument) :=
  if payload = [] then some (.error (ascii "payload must be non-empty"))
  else if maxYamlPayloadBytes < payload.length then
    some (.error (ascii ("payload exceeds maximum size of " ++ toString maxYamlPayloadBytes ++ " bytes")))
  else
    match load payload with
    | .error what => some (.error (ascii "payload is not valid YAML: " ++ what))
    | .ok root =>
        match root.containsOversizedSequence fuel root.root with
        | none => none
        | some true =>
            some (.error (ascii ("payload contains a sequence exceeding maximum length " ++
              toString maxResizableSequenceLength)))
        | some false => some (.ok root)

/-- The check of a payload of admissible size returns exactly when the document does not make
the walk run in a circle. -/
theorem loadPayload_returns_iff (payload : Bytes) :
    (payload.length ≤ maxYamlPayloadBytes → ∃ fuel, (loadPayload load fuel payload).isSome) ↔
      (payload ≠ [] → payload.length ≤ maxYamlPayloadBytes → ∀ document, load payload = .ok document →
        ¬ document.WalksInCircle) := by
  by_cases empty : payload = []
  · simp [loadPayload, empty]
  · by_cases long : maxYamlPayloadBytes < payload.length
    · simp [Nat.not_le.mpr long]
    · have fits := Nat.le_of_not_lt long
      cases loaded : load payload with
      | error what => simp [loadPayload, empty, long, loaded]
      | ok root =>
          have same : ∀ fuel, (loadPayload load fuel payload).isSome =
              (root.containsOversizedSequence fuel root.root).isSome := by
            intro fuel
            simp only [loadPayload, if_neg empty, if_neg long, loaded]
            split <;> simp [*]
          simp only [same, root.walk_returns_iff]
          constructor
          · intro returns _ _ document sameDocument
            cases sameDocument
            exact returns fits
          · intro condition _
            exact condition empty fits root rfl

end Payload

/-- `&a [*a]`: a sequence whose only entry is itself. -/
def selfContained : YamlDocument where
  size := 1
  node := fun node => .sequence [node]
  root := 0

theorem selfContained_never_walked (fuel : Nat) :
    selfContained.containsOversizedSequence fuel selfContained.root = none := by
  induction fuel with
  | zero => rfl
  | succ fuel ih =>
      have entries : selfContained.node selfContained.root = .sequence [selfContained.root] := rfl
      simp [YamlDocument.containsOversizedSequence, entries, maxResizableSequenceLength, DepthFirst.anyOf, ih]

/-- A sequence that contains itself is walked for ever. -/
theorem self_contained_payload_never_checked :
    ¬ ∀ (load : YamlLoad) (payload : Bytes), payload.length ≤ maxYamlPayloadBytes →
      ∃ fuel, (loadPayload load fuel payload).isSome := by
  intro returns
  obtain ⟨fuel, returned⟩ := returns (fun _ => .ok selfContained) (ascii "&a [*a]") (by decide +kernel)
  have nonempty : ascii "&a [*a]" ≠ [] := by decide +kernel
  have fits : ¬ maxYamlPayloadBytes < (ascii "&a [*a]").length := by decide +kernel
  simp only [loadPayload, if_neg nonempty, if_neg fits, selfContained_never_walked] at returned
  cases returned

end RosPortal.Introspection
