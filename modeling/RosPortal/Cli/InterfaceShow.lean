import RosPortal.Cli.InterfaceText
import RosPortal.Traversal.Expansion

/-! `ros2 interface show`: the definition of a type, with the definitions its lines refer to
below them. -/

set_option autoImplicit false

namespace RosPortal.Cli.InterfaceShow

open JsonText (Bytes ascii)
open Expansion (Documents Expanded Expands ExpandsDocument Placed)

/-- A call of `renderInterfaceDefinitionRecursive` that has returned, with the active types it
found and left. -/
structure Call where
  type : Bytes
  before : Finset Bytes
  after : Finset Bytes

/-- What the calls share, and a history of those that have returned. -/
structure Rendering where
  activeTypes : Finset Bytes := ∅
  output : Bytes := []
  returned : List Call := []

section Rendering

variable (rendering : Rendering) (type : Bytes)

def Rendering.activate : Rendering :=
  { rendering with activeTypes := insert type rendering.activeTypes }

def Rendering.deactivate : Rendering :=
  { rendering with activeTypes := rendering.activeTypes.erase type }

def Rendering.append (text : Bytes) : Rendering := { rendering with output := rendering.output ++ text }

def Rendering.leave (before : Finset Bytes) : Rendering :=
  { rendering with returned := rendering.returned ++ [⟨type, before, rendering.activeTypes⟩] }

end Rendering

/-- The loop over the lines of an open definition. The function that renders a nested type
is given, and answers `none` when it ran out of fuel. -/
def renderLines (recurse : Bytes → Bool → Bool → Nat → Rendering → Option (Bool × Rendering))
    (type packageName : Bytes) (showComments showNestedComments : Bool) (indentLevel : Nat) :
    List Bytes → Rendering → Option (Bool × Rendering)
  | [], rendering => some (true, rendering.deactivate type)
  | line :: lines, rendering =>
      let rendering := rendering.append (renderedInterfaceLine line showComments indentLevel)
      let next := renderLines recurse type packageName showComments showNestedComments indentLevel lines
      match nestedInterfaceTypeFromLine packageName line with
      | none => next rendering
      | some nestedType =>
          if nestedType ∈ rendering.activeTypes then next rendering
          else
            match recurse nestedType showNestedComments showNestedComments (indentLevel + 1) rendering with
            | none => none
            | some (false, rendering) => some (false, rendering.deactivate type)
            | some (true, rendering) => next rendering

section RenderLines

variable {recurse : Bytes → Bool → Bool → Nat → Rendering → Option (Bool × Rendering)}
  {type packageName line : Bytes} {lines : List Bytes} {showComments showNestedComments : Bool}
  {indentLevel : Nat} {rendering : Rendering}

theorem renderLines_plain
    (closed : ∀ nestedType, nestedInterfaceTypeFromLine packageName line = some nestedType →
      nestedType ∈ rendering.activeTypes) :
    renderLines recurse type packageName showComments showNestedComments indentLevel (line :: lines)
        rendering =
      renderLines recurse type packageName showComments showNestedComments indentLevel lines
        (rendering.append (renderedInterfaceLine line showComments indentLevel)) := by
  rw [renderLines]
  cases refers : nestedInterfaceTypeFromLine packageName line with
  | none => rfl
  | some nestedType => exact if_pos (closed nestedType refers)

theorem renderLines_nested {nestedType : Bytes}
    (refers : nestedInterfaceTypeFromLine packageName line = some nestedType)
    (outside : nestedType ∉ rendering.activeTypes) :
    renderLines recurse type packageName showComments showNestedComments indentLevel (line :: lines)
        rendering =
      match recurse nestedType showNestedComments showNestedComments (indentLevel + 1)
          (rendering.append (renderedInterfaceLine line showComments indentLevel)) with
      | none => none
      | some (false, rendering) => some (false, rendering.deactivate type)
      | some (true, rendering) =>
          renderLines recurse type packageName showComments showNestedComments indentLevel lines
            rendering := by
  rw [renderLines, refers]
  exact if_neg outside

end RenderLines

/-- `parts[0]`: a split has a first part. -/
def packageOf (type : Bytes) : Bytes := (splitInterfaceType type).headD []

def renderInterfaceDefinitionRecursive (env : Environment) :
    Nat → Bytes → Bool → Bool → Nat → Rendering → Option (Bool × Rendering)
  | 0, _, _, _, _, _ => none
  | fuel + 1, type, showComments, showNestedComments, indentLevel, rendering =>
      let result :=
        match interfacePath env type with
        | none => some (false, rendering)
        | some path =>
            match env.files.lookup path with
            | none => some (false, rendering)
            | some text =>
                renderLines (renderInterfaceDefinitionRecursive env fuel) type (packageOf type)
                  showComments showNestedComments indentLevel (inputLines text) (rendering.activate type)
      result.map fun (success, after) => (success, after.leave type rendering.activeTypes)

/-- What is returned, and the calls that were made for it. -/
def renderInterfaceDefinition (env : Environment) (fuel : Nat) (options : InterfaceShowOptions) :
    Option (Option Bytes × List Call) :=
  if options.type = [] then some (none, [])
  else if options.type = ascii "-" then some (none, [])
  else if options.allComments && options.noComments then some (none, [])
  else
    (renderInterfaceDefinitionRecursive env fuel options.type (!options.noComments) options.allComments 0
      {}).map fun (success, rendering) =>
        (if success then some rendering.output else none, rendering.returned)

/-! ## What is rendered -/

/-- The definitions that can be opened, and the types their lines refer to. -/
def definitions (env : Environment) : Documents Bytes Bytes where
  lines type := (openDefinition env type).map inputLines
  reference type line := nestedInterfaceTypeFromLine (packageOf type) line

/-- The text of an expansion: comments are shown in its own lines or in those nested in it. -/
def renderedText (showComments showNestedComments : Bool) (indentLevel : Nat)
    (placed : List (Placed Bytes)) : Bytes :=
  placed.flatMap fun entry =>
    renderedInterfaceLine entry.line
      (if entry.level = indentLevel then showComments else showNestedComments) entry.level

section RenderedText

variable (showComments showNestedComments : Bool) (indentLevel : Nat)

theorem renderedText_cons (line : Bytes) (placed : List (Placed Bytes)) :
    renderedText showComments showNestedComments indentLevel (⟨indentLevel, line⟩ :: placed) =
      renderedInterfaceLine line showComments indentLevel ++
        renderedText showComments showNestedComments indentLevel placed := by
  rw [renderedText, List.flatMap_cons, if_pos rfl]
  rfl

theorem renderedText_append (before after : List (Placed Bytes)) :
    renderedText showComments showNestedComments indentLevel (before ++ after) =
      renderedText showComments showNestedComments indentLevel before ++
        renderedText showComments showNestedComments indentLevel after :=
  List.flatMap_append

/-- Deeper lines show comments as the nested call is told to. -/
theorem renderedText_deeper {placed : List (Placed Bytes)}
    (deeper : ∀ entry ∈ placed, indentLevel + 1 ≤ entry.level) :
    renderedText showComments showNestedComments indentLevel placed =
      renderedText showNestedComments showNestedComments (indentLevel + 1) placed := by
  unfold renderedText
  refine List.flatMap_congr fun entry member => ?_
  have different : entry.level ≠ indentLevel := by
    have := deeper entry member
    omega
  rw [if_neg different, ite_self]

end RenderedText

/-! ## Runs -/

/-- With enough fuel the loop ends so, and the calls it makes leave the active types as they
found them. -/
def LinesEnd (env : Environment) (around : Finset Bytes) (level : Nat) (type : Bytes)
    (lines : List Bytes) (complete : Bool) (placed : List (Placed Bytes)) : Prop :=
  ∃ enough calls, (∀ call ∈ calls, call.after = call.before) ∧
    ∀ fuel ≥ enough, ∀ showComments showNestedComments output returned,
      renderLines (renderInterfaceDefinitionRecursive env fuel) type (packageOf type) showComments
          showNestedComments level lines ⟨around, output, returned⟩ =
        some (complete, ⟨around.erase type,
          output ++ renderedText showComments showNestedComments level placed, returned ++ calls⟩)

/-- With enough fuel a call ends so. It leaves the active types as it found them, and so do the
calls it makes. -/
def CallEnds (env : Environment) (around : Finset Bytes) (level : Nat) (type : Bytes)
    (complete : Bool) (placed : List (Placed Bytes)) : Prop :=
  ∃ enough calls, (∀ call ∈ calls, call.after = call.before) ∧
    ∀ fuel ≥ enough, ∀ showComments showNestedComments output returned,
      renderInterfaceDefinitionRecursive env fuel type showComments showNestedComments level
          ⟨around, output, returned⟩ =
        some (complete, ⟨around,
          output ++ renderedText showComments showNestedComments level placed, returned ++ calls⟩)

section Runs

variable {env : Environment} {around : Finset Bytes} {level : Nat} {type : Bytes} {complete : Bool}
  {placed : List (Placed Bytes)}

theorem callEnds_of_absent (absent : openDefinition env type = none) :
    CallEnds env around level type false [] := by
  refine ⟨1, [⟨type, around, around⟩], by simp, fun fuel enough showComments showNestedComments output
    returned => ?_⟩
  cases fuel with
  | zero => exact absurd enough (Nat.not_succ_le_zero 0)
  | succ fuel =>
      rw [renderInterfaceDefinitionRecursive]
      cases resolved : interfacePath env type with
      | none => simp [renderedText, Rendering.leave]
      | some path =>
          have closed : env.files.lookup path = none := by
            simpa [openDefinition, resolved] using absent
          simp [closed, renderedText, Rendering.leave]

/-- A call removes what it added, as its type was not active before. -/
theorem callEnds_of_lines {text : Bytes} (outside : type ∉ around)
    (opened : openDefinition env type = some text)
    (ends : LinesEnd env (insert type around) level type (inputLines text) complete placed) :
    CallEnds env around level type complete placed := by
  obtain ⟨enough, calls, restored, run⟩ := ends
  obtain ⟨path, resolved, found⟩ := Option.bind_eq_some_iff.mp opened
  refine ⟨enough + 1, calls ++ [⟨type, around, around⟩], ?_, fun fuel more showComments showNestedComments
    output returned => ?_⟩
  · exact List.forall_mem_append.mpr ⟨restored, by simp⟩
  cases fuel with
  | zero => exact absurd more (Nat.not_succ_le_zero enough)
  | succ fuel =>
      have lines := run fuel (Nat.le_of_succ_le_succ more) showComments showNestedComments output returned
      rw [Finset.erase_insert outside] at lines
      simp only [renderInterfaceDefinitionRecursive, resolved, found, Rendering.activate, lines]
      simp [Rendering.leave]

theorem linesEnd_done : LinesEnd env around level type [] true [] := by
  refine ⟨0, [], nofun, fun fuel _ showComments showNestedComments output returned => ?_⟩
  simp [renderLines, renderedText, Rendering.deactivate]

section Cons

variable {line : Bytes} {lines : List Bytes} {inner : Bytes} {below : List (Placed Bytes)}

theorem linesEnd_plain
    (closed : ∀ inner, nestedInterfaceTypeFromLine (packageOf type) line = some inner → inner ∈ around)
    (ends : LinesEnd env around level type lines complete placed) :
    LinesEnd env around level type (line :: lines) complete (⟨level, line⟩ :: placed) := by
  obtain ⟨enough, calls, restored, run⟩ := ends
  refine ⟨enough, calls, restored, fun fuel more showComments showNestedComments output returned => ?_⟩
  rw [renderLines_plain closed, renderedText_cons, ← List.append_assoc]
  exact run fuel more ..

variable (refers : nestedInterfaceTypeFromLine (packageOf type) line = some inner)
  (outside : inner ∉ around) (deeper : ∀ entry ∈ below, level + 1 ≤ entry.level)

include refers outside deeper

theorem linesEnd_broken (ends : CallEnds env around (level + 1) inner false below) :
    LinesEnd env around level type (line :: lines) false (⟨level, line⟩ :: below) := by
  obtain ⟨enough, calls, restored, run⟩ := ends
  refine ⟨enough, calls, restored, fun fuel more showComments showNestedComments output returned => ?_⟩
  rw [renderLines_nested refers outside, renderedText_cons, ← List.append_assoc,
    renderedText_deeper _ _ _ deeper, Rendering.append, run fuel more]
  rfl

theorem linesEnd_nested (inside : CallEnds env around (level + 1) inner true below)
    (ends : LinesEnd env around level type lines complete placed) :
    LinesEnd env around level type (line :: lines) complete (⟨level, line⟩ :: (below ++ placed)) := by
  obtain ⟨enoughInside, callsInside, restoredInside, runInside⟩ := inside
  obtain ⟨enough, calls, restored, run⟩ := ends
  refine ⟨max enoughInside enough, callsInside ++ calls,
    List.forall_mem_append.mpr ⟨restoredInside, restored⟩,
    fun fuel more showComments showNestedComments output returned => ?_⟩
  rw [renderLines_nested refers outside, renderedText_cons, renderedText_append,
    renderedText_deeper _ _ _ deeper, ← List.append_assoc, ← List.append_assoc, ← List.append_assoc,
    Rendering.append, runInside fuel (Nat.le_trans (Nat.le_max_left _ _) more)]
  exact run fuel (Nat.le_trans (Nat.le_max_right _ _) more) ..

end Cons

/-- The loop writes the expansion of the lines. -/
theorem linesEnd_of_expands {lines : List Bytes}
    (expands : Expands (definitions env) around level type lines complete placed) :
    LinesEnd env around level type lines complete placed := by
  induction expands with
  | done => exact linesEnd_done
  | plain closed _ ih => exact linesEnd_plain closed ih
  | missing refers outside absent =>
      exact linesEnd_broken refers outside nofun (callEnds_of_absent (Option.map_eq_none_iff.mp absent))
  | broken refers outside present inside ih =>
      obtain ⟨text, opened, rfl⟩ := Option.map_eq_some_iff.mp present
      exact linesEnd_broken refers outside inside.level_le (callEnds_of_lines outside opened ih)
  | nested refers outside present inside rest insideIH restIH =>
      obtain ⟨text, opened, rfl⟩ := Option.map_eq_some_iff.mp present
      exact linesEnd_nested refers outside inside.level_le (callEnds_of_lines outside opened insideIH) restIH

theorem callEnds_of_expands (outside : type ∉ around)
    (expands : ExpandsDocument (definitions env) around level type complete placed) :
    CallEnds env around level type complete placed := by
  cases expands with
  | absent absent => exact callEnds_of_absent (Option.map_eq_none_iff.mp absent)
  | opened present expands =>
      obtain ⟨text, opened, rfl⟩ := Option.map_eq_some_iff.mp present
      exact callEnds_of_lines outside opened (linesEnd_of_expands expands)

end Runs

/-- Rendering ends. The text is that of the expansion of the type, in which a nested type is
below its line, one level deeper, unless it is expanded around it; each call leaves the active
types as it found them; and there is no text exactly when a type to expand cannot be opened. -/
theorem renderInterfaceDefinition_expands (env : Environment) (options : InterfaceShowOptions)
    (named : options.type ≠ []) (notStdin : options.type ≠ ascii "-")
    (consistent : ¬ (options.allComments ∧ options.noComments)) :
    ∃ enough calls complete placed,
      ExpandsDocument (definitions env) ∅ 0 options.type complete placed ∧
        (∀ fuel ≥ enough, renderInterfaceDefinition env fuel options =
          some (if complete then
              some (renderedText (!options.noComments) options.allComments 0 placed)
            else none, calls)) ∧
        (∀ call ∈ calls, call.after = call.before) ∧
        (complete = false ↔ ∃ around type,
          Expanded (definitions env) options.type around type ∧ openDefinition env type = none) := by
  have finite : {type | ((definitions env).lines type).isSome}.Finite := by
    simpa [definitions] using finite_openDefinition env
  obtain ⟨complete, placed, expands⟩ := Expansion.exists_expandsDocument finite ∅ 0 options.type
  obtain ⟨enough, calls, restored, run⟩ := callEnds_of_expands (Finset.notMem_empty _) expands
  refine ⟨enough, calls, complete, placed, expands, fun fuel more => ?_, restored, ?_⟩
  · have call := run fuel more (!options.noComments) options.allComments [] []
    rw [renderInterfaceDefinition, if_neg named, if_neg notStdin, if_neg (by simpa using consistent)]
    exact congrArg (Option.map _) call
  · simpa [definitions] using expands.complete_eq_false_iff

/-- Two definitions that refer to each other. -/
def cyclicEnvironment : Environment where
  shareDirectories := [(ascii "p", ascii "/s")]
  files := [(ascii "/s/msg/A.msg", ascii "B b\n"), (ascii "/s/msg/B.msg", ascii "A a # back\nint8 x")]

theorem cyclic_definitions_end :
    ∃ enough calls complete placed,
      ExpandsDocument (definitions cyclicEnvironment) ∅ 0 (ascii "p/msg/A") complete placed ∧
        (∀ fuel ≥ enough, renderInterfaceDefinition cyclicEnvironment fuel ⟨ascii "p/msg/A", false, true⟩ =
          some (if complete then some (renderedText false false 0 placed) else none, calls)) ∧
        (∀ call ∈ calls, call.after = call.before) ∧
        (complete = false ↔ ∃ around type,
          Expanded (definitions cyclicEnvironment) (ascii "p/msg/A") around type ∧
            openDefinition cyclicEnvironment type = none) :=
  renderInterfaceDefinition_expands cyclicEnvironment ⟨ascii "p/msg/A", false, true⟩ (by decide) (by decide)
    (by decide)

example : (renderInterfaceDefinition cyclicEnvironment 3 ⟨ascii "p/msg/A", false, true⟩).map Prod.fst =
    some (some (ascii "B b\n\tA a\n\tint8 x\n")) := by
  decide +kernel

end RosPortal.Cli.InterfaceShow
