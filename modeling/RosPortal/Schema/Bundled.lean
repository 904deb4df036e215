import RosPortal.Schema.Definitions
import RosPortal.Traversal.Preorder

/-! The bundled schema of a message type: its definition, then those it depends on. -/

set_option autoImplicit false

namespace RosPortal.Schema.Renderer

open JsonText (Bytes ascii)
open Preorder (Reaches Visit Walks WalksFrom)

structure RosMessageSchema where
  encoding : Bytes
  text : Bytes
deriving DecidableEq, Repr

/-- The loop over the dependencies of a definition. The function that renders one is given. -/
def appendDependencies (recurse : Bytes → Finset Bytes → Except Bytes (Bytes × Finset Bytes))
    (format : DefinitionFormat) : List Bytes → Bytes → Finset Bytes → Except Bytes (Bytes × Finset Bytes)
  | [], result, seen => .ok (result, seen)
  | dependency :: rest, result, seen =>
      if dependency ∈ seen then appendDependencies recurse format rest result seen
      else
        match recurse dependency (insert dependency seen) with
        | .error error => .error error
        | .ok (text, seen) =>
            appendDependencies recurse format rest
              (result ++ (ascii "\n" ++ definitionDelimiter format dependency ++ text)) seen

/-- The depth that is left decreases with every definition on the way. -/
def appendDefinition (env : Environment) (format : DefinitionFormat) :
    Nat → Bytes → Finset Bytes → Except Bytes (Bytes × Finset Bytes)
  | 0, type, _ => .error (ascii "Message definition exceeded maximum dependency depth: " ++ type)
  | depth + 1, type, seen =>
      match loadDefinition env type format with
      | .error error => .error error
      | .ok spec =>
          appendDependencies (appendDefinition env format depth) format (definitionDependencies spec format)
            spec.text seen

def renderBundled (env : Environment) (topicType : Bytes) : Except Bytes RosMessageSchema :=
  match appendDefinition env .msg kMaxDefinitionDepth topicType {topicType} with
  | .ok (text, _) => .ok ⟨ascii "ros2msg", text⟩
  | .error _ =>
      match appendDefinition env .idl kMaxDefinitionDepth topicType {topicType} with
      | .ok (text, _) => .ok ⟨ascii "ros2idl", definitionDelimiter .idl topicType ++ text⟩
      | .error error => .error error

/-! ## Sections -/

section Sections

variable (env : Environment) (format : DefinitionFormat)

/-- The delimited section of a dependency, with its complete definition. -/
def dependencySection (visit : Visit Bytes) : Bytes :=
  ascii "\n" ++ definitionDelimiter format visit.node ++ definitionText env format visit.node

/-- The definition of a root and the sections of what a walk enters below it. -/
def bundledText (root : Bytes) (visits : List (Visit Bytes)) : Bytes :=
  definitionText env format root ++ visits.flatMap (dependencySection env format)

/-- What is reachable from a root can be loaded, on paths that are not too long. -/
structure Renderable (root : Bytes) (visits : List (Visit Bytes)) : Prop where
  loadable : ∀ type, Reaches (dependencies env format) root type → Loadable env format type
  shallow : ∀ visit ∈ visits, visit.depth ≤ kMaxDefinitionDepth

/-- The definition that a walk enters is rendered. -/
def Fits (visit : Visit Bytes) : Prop :=
  visit.depth ≤ kMaxDefinitionDepth ∧ Loadable env format visit.node

end Sections

variable {env : Environment} {format : DefinitionFormat}

theorem appendDefinition_of_fits {depth remaining : Nat} {type : Bytes}
    (level : remaining + depth = kMaxDefinitionDepth + 1) (fits : Fits env format ⟨depth, type⟩)
    (seen : Finset Bytes) :
    ∃ left, left + (depth + 1) = kMaxDefinitionDepth + 1 ∧
      appendDefinition env format remaining type seen =
        appendDependencies (appendDefinition env format left) format (dependencies env format type)
          (definitionText env format type) seen := by
  obtain ⟨shallow, spec, loaded⟩ := fits
  cases remaining with
  | zero =>
      simp only at shallow
      omega
  | succ left =>
      refine ⟨left, by omega, ?_⟩
      rw [appendDefinition, dependencies, definitionText, loaded]

theorem appendDefinition_of_not_fits {depth remaining : Nat} {type : Bytes}
    (level : remaining + depth = kMaxDefinitionDepth + 1) (misfit : ¬ Fits env format ⟨depth, type⟩)
    (seen : Finset Bytes) : ∃ error, appendDefinition env format remaining type seen = .error error := by
  cases remaining with
  | zero => exact ⟨_, rfl⟩
  | succ left =>
      rw [appendDefinition]
      cases loaded : loadDefinition env type format with
      | error error => exact ⟨error, rfl⟩
      | ok spec =>
          refine absurd ⟨?_, spec, loaded⟩ misfit
          simp only
          omega

variable {depth remaining : Nat} {seen after : Finset Bytes} {types : List Bytes}
  {visits : List (Visit Bytes)}

/-- Where every definition fits, the loop writes the sections of the walk in its order. -/
theorem appendDependencies_of_fits
    (walk : Walks (dependencies env format) depth seen types visits after)
    (level : remaining + depth = kMaxDefinitionDepth + 1) (fits : ∀ visit ∈ visits, Fits env format visit)
    (result : Bytes) :
    appendDependencies (appendDefinition env format remaining) format types result seen =
      .ok (result ++ visits.flatMap (dependencySection env format), after) := by
  induction walk generalizing remaining result with
  | done => simp [appendDependencies]
  | skip entered _ ih =>
      rw [appendDependencies, if_pos entered]
      exact ih level fits result
  | enter fresh below rest belowIH restIH =>
      obtain ⟨here, fits⟩ := List.forall_mem_cons.mp fits
      obtain ⟨fitsBelow, fitsRest⟩ := List.forall_mem_append.mp fits
      obtain ⟨left, deeper, call⟩ := appendDefinition_of_fits level here (insert _ _)
      rw [appendDependencies, if_neg fresh, call, belowIH deeper fitsBelow]
      simp only
      rw [restIH level fitsRest]
      simp [dependencySection]

/-- Where one does not fit, an exception leaves the loop. -/
theorem appendDependencies_of_not_fits
    (walk : Walks (dependencies env format) depth seen types visits after)
    (level : remaining + depth = kMaxDefinitionDepth + 1)
    (misfit : ∃ visit ∈ visits, ¬ Fits env format visit) (result : Bytes) :
    ∃ error, appendDependencies (appendDefinition env format remaining) format types result seen =
      .error error := by
  induction walk generalizing remaining result with
  | done =>
      obtain ⟨visit, member, -⟩ := misfit
      cases member
  | skip entered _ ih =>
      rw [appendDependencies, if_pos entered]
      exact ih level misfit result
  | @enter depth seen type rest below middle visits after fresh walkBelow walkRest belowIH restIH =>
      rw [appendDependencies, if_neg fresh]
      by_cases here : Fits env format ⟨depth, type⟩
      · obtain ⟨left, deeper, call⟩ := appendDefinition_of_fits level here (insert type seen)
        rw [call]
        by_cases fitsBelow : ∀ visit ∈ below, Fits env format visit
        · rw [appendDependencies_of_fits walkBelow deeper fitsBelow]
          refine restIH level ?_ _
          obtain ⟨visit, member, wrong⟩ := misfit
          rcases List.mem_cons.mp member with rfl | member
          · exact absurd here wrong
          rcases List.mem_append.mp member with inBelow | inRest
          · exact absurd (fitsBelow visit inBelow) wrong
          · exact ⟨visit, inRest, wrong⟩
        · push Not at fitsBelow
          obtain ⟨error, failed⟩ := belowIH deeper fitsBelow (definitionText env format type)
          rw [failed]
          exact ⟨error, rfl⟩
      · obtain ⟨error, failed⟩ := appendDefinition_of_not_fits level here (insert type seen)
        rw [failed]
        exact ⟨error, rfl⟩

section Root

variable {root : Bytes} (walk : WalksFrom (dependencies env format) root visits)

include walk

/-- What is reachable is the root and what the walk enters. -/
theorem renderable_iff :
    Renderable env format root visits ↔
      Fits env format ⟨1, root⟩ ∧ ∀ visit ∈ visits, Fits env format visit := by
  constructor
  · rintro ⟨loadable, shallow⟩
    refine ⟨⟨show 1 ≤ kMaxDefinitionDepth by decide, loadable root .refl⟩, fun visit member => ?_⟩
    refine ⟨shallow visit member, ?_⟩
    exact loadable visit.node ((walk.mem_iff visit.node).mp (List.mem_map_of_mem member)).1
  · rintro ⟨here, fits⟩
    refine ⟨fun type path => ?_, fun visit member => (fits visit member).1⟩
    by_cases atRoot : type = root
    · exact atRoot ▸ here.2
    · obtain ⟨visit, member, rfl⟩ := List.mem_map.mp ((walk.mem_iff type).mpr ⟨path, atRoot⟩)
      exact (fits visit member).2

theorem appendDefinition_of_renderable (renderable : Renderable env format root visits) :
    ∃ after, appendDefinition env format kMaxDefinitionDepth root {root} =
      .ok (bundledText env format root visits, after) := by
  obtain ⟨here, fits⟩ := (renderable_iff walk).mp renderable
  obtain ⟨after, walk⟩ := walk
  obtain ⟨left, deeper, call⟩ := appendDefinition_of_fits (by rfl) here {root}
  exact ⟨after, call.trans (appendDependencies_of_fits walk deeper fits _)⟩

theorem appendDefinition_of_not_renderable (misfit : ¬ Renderable env format root visits) :
    ∃ error, appendDefinition env format kMaxDefinitionDepth root {root} = .error error := by
  rw [renderable_iff walk] at misfit
  by_cases here : Fits env format ⟨1, root⟩
  · obtain ⟨after, walk⟩ := walk
    obtain ⟨left, deeper, call⟩ := appendDefinition_of_fits (by rfl) here {root}
    rw [call]
    refine appendDependencies_of_not_fits walk deeper ?_ _
    by_contra fits
    push Not at fits
    exact misfit ⟨here, fits⟩
  · exact appendDefinition_of_not_fits (by rfl) here {root}

end Root

/-- The bundled text of a type has the definition of the type and once each that is reachable
from it, in the order of a depth-first walk. The `.msg` form is abandoned when a definition of it
cannot be loaded or is too deep. -/
theorem renderBundled_sections (env : Environment) (topicType : Bytes) :
    ∃ visits : DefinitionFormat → List (Visit Bytes),
      (∀ format, WalksFrom (dependencies env format) topicType (visits format) ∧
        (∀ type, (dependencies env format type).Pairwise (· < ·)) ∧
        ((visits format).map Visit.node).Nodup ∧
        ∀ type, type ∈ (visits format).map Visit.node ↔
          Reaches (dependencies env format) topicType type ∧ type ≠ topicType) ∧
      ((∃ error, appendDefinition env .msg kMaxDefinitionDepth topicType {topicType} = .error error) ↔
        ¬ Renderable env .msg topicType (visits .msg)) ∧
      (Renderable env .msg topicType (visits .msg) →
        renderBundled env topicType =
          .ok ⟨ascii "ros2msg", bundledText env .msg topicType (visits .msg)⟩) ∧
      (¬ Renderable env .msg topicType (visits .msg) → Renderable env .idl topicType (visits .idl) →
        renderBundled env topicType =
          .ok ⟨ascii "ros2idl", definitionDelimiter .idl topicType ++
            bundledText env .idl topicType (visits .idl)⟩) ∧
      (¬ Renderable env .msg topicType (visits .msg) → ¬ Renderable env .idl topicType (visits .idl) →
        ∃ error, renderBundled env topicType = .error error) := by
  have exists_walk (format : DefinitionFormat) :
      ∃ visits, WalksFrom (dependencies env format) topicType visits :=
    Preorder.exists_walksFrom (finite_dependencies env format) topicType
  choose visits walk using exists_walk
  refine ⟨visits, fun format => ⟨walk format, fun _ => dependencies_sorted, (walk format).nodup,
    (walk format).mem_iff⟩, ⟨?_, appendDefinition_of_not_renderable (walk .msg)⟩, ?_, ?_, ?_⟩
  · rintro ⟨error, failed⟩ renderable
    obtain ⟨after, rendered⟩ := appendDefinition_of_renderable (walk .msg) renderable
    cases rendered.symm.trans failed
  · intro renderable
    obtain ⟨after, rendered⟩ := appendDefinition_of_renderable (walk .msg) renderable
    rw [renderBundled, rendered]
  · intro misfit renderable
    obtain ⟨_, failed⟩ := appendDefinition_of_not_renderable (walk .msg) misfit
    obtain ⟨after, rendered⟩ := appendDefinition_of_renderable (walk .idl) renderable
    rw [renderBundled, failed, rendered]
  · intro misfit misfit'
    obtain ⟨_, failed⟩ := appendDefinition_of_not_renderable (walk .msg) misfit
    obtain ⟨error, failed'⟩ := appendDefinition_of_not_renderable (walk .idl) misfit'
    exact ⟨error, by rw [renderBundled, failed, failed']⟩

/-- A package whose only definition is in the IDL form. -/
def idlOnly : Environment where
  resources := [(ascii "p", ⟨ascii "msg/A.idl\n", ascii "/x"⟩)]
  files := [(ascii "/x/share/p/msg/A.idl", ascii "struct A;\n")]

theorem idl_text_has_delimiter_first :
    ¬ ∀ (env : Environment) (topicType : Bytes) (visits : List (Visit Bytes)) (text : Bytes),
      WalksFrom (dependencies env .idl) topicType visits → Renderable env .idl topicType visits →
        renderBundled env topicType = .ok ⟨ascii "ros2idl", text⟩ →
          text = bundledText env .idl topicType visits := by
  intro rootFirst
  have leaf : dependencies idlOnly .idl (ascii "p/msg/A") = [] := by decide +kernel
  have loaded : loadDefinition idlOnly (ascii "p/msg/A") .idl = .ok ⟨ascii "p", ascii "struct A;\n"⟩ := by
    decide +kernel
  have walk : WalksFrom (dependencies idlOnly .idl) (ascii "p/msg/A") [] := by
    refine ⟨{ascii "p/msg/A"}, ?_⟩
    rw [leaf]
    exact .done
  have renderable : Renderable idlOnly .idl (ascii "p/msg/A") [] :=
    (renderable_iff walk).mpr ⟨⟨show 1 ≤ kMaxDefinitionDepth by decide, _, loaded⟩, nofun⟩
  have rendered : renderBundled idlOnly (ascii "p/msg/A") =
      .ok ⟨ascii "ros2idl", definitionDelimiter .idl (ascii "p/msg/A") ++ ascii "struct A;\n"⟩ := by
    decide +kernel
  have same := rootFirst idlOnly (ascii "p/msg/A") [] _ walk renderable rendered
  exact absurd same (by decide +kernel)

end RosPortal.Schema.Renderer
