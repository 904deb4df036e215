import Mathlib.Data.List.Dedup
import Mathlib.Data.List.Sort
import Mathlib.Data.Set.Finite.Lattice
import RosPortal.Json.Utf8

/-! The definition files of message types: where one is found, and the types it refers to. -/

set_option autoImplicit false

namespace RosPortal.Schema.Renderer

open JsonText (Bytes ascii getlines mem_of_lookup)

inductive DefinitionFormat where
  | msg
  | idl
deriving DecidableEq, Repr

def kMaxDefinitionDepth : Nat := 50

def kPrimitiveTypes : List Bytes :=
  ["bool", "byte", "char", "float32", "float64", "int8", "uint8", "int16", "uint16", "int32", "uint32",
    "int64", "uint64", "string"].map ascii

structure DefinitionSpec where
  packageName : Bytes
  text : Bytes
deriving DecidableEq, Repr

/-- A resource of the ament index: its content, and the prefix it was found under. -/
structure Resource where
  content : Bytes
  location : Bytes
deriving DecidableEq, Repr

/-- The `rosidl_interfaces` resources, by package, and the files that can be read. -/
structure Environment where
  resources : List (Bytes × Resource)
  files : List (Bytes × Bytes)

def definitionExtension : DefinitionFormat → Bytes
  | .msg => ascii ".msg"
  | .idl => ascii ".idl"

def definitionDelimiter (format : DefinitionFormat) (type : Bytes) : Bytes :=
  List.replicate 80 61 ++ [10] ++
    (match format with
    | .msg => ascii "MSG: "
    | .idl => ascii "IDL: ") ++ type ++ [10]

/-! ## Names and paths -/

def slash : UInt8 := 47

/-- `[a-zA-Z0-9_]`. -/
def isNameCharacter (octet : UInt8) : Bool :=
  (97 ≤ octet && octet ≤ 122) || (65 ≤ octet && octet ≤ 90) || (48 ≤ octet && octet ≤ 57) || octet == 95

/-- What `kPackageTypeRegex` captures of a whole type name: the first and the last of at least
two names between slashes. -/
def matchPackageType (type : Bytes) : Option (Bytes × Bytes) :=
  let names := type.splitOn slash
  if 2 ≤ names.length ∧ ∀ name ∈ names, name ≠ [] ∧ name.all isNameCharacter then
    some (names.headD [], names.getLastD [])
  else none

/-- `std::filesystem::path(line).filename()`. -/
def filename (path : Bytes) : Bytes := (path.splitOn slash).getLastD []

/-- `operator/` of paths. -/
def joinPath (path other : Bytes) : Bytes :=
  if other.head? = some slash then other
  else if path = [] ∨ path.getLast? = some slash then path ++ other
  else path ++ [slash] ++ other

/-- An error is the text of the `std::runtime_error`. -/
def loadDefinition (env : Environment) (type : Bytes) (format : DefinitionFormat) :
    Except Bytes DefinitionSpec :=
  match matchPackageType type with
  | none => .error (ascii "Message type name is not understood: " ++ type)
  | some (packageName, name) =>
      let fileName := name ++ definitionExtension format
      match env.resources.lookup packageName with
      | none => .error (ascii "Message package is not in the ament index: " ++ packageName)
      | some resource =>
          match (getlines resource.content).find? fun line => line ≠ [] ∧ filename line = fileName with
          | none => .error (ascii "Message definition not found: " ++ type ++ definitionExtension format)
          | some relativePath =>
              let path := joinPath (joinPath (joinPath resource.location (ascii "share")) packageName)
                relativePath
              match env.files.lookup path with
              | none => .error (ascii "Unable to read message definition: " ++ path)
              | some text => .ok ⟨packageName, text⟩

/-! ## Fields -/

/-- `\s` in the C locale. -/
def isBlank (octet : UInt8) : Bool := octet == 32 || (9 ≤ octet && octet ≤ 13)

/-- `[a-zA-Z0-9_/]`. -/
def isTypeCharacter (octet : UInt8) : Bool := isNameCharacter octet || octet == slash

/-- `(?:\[[^\]]*\])?`. Before a bracket that is not closed the pattern fails, as it is no blank. -/
def skipArraySuffix : Bytes → Option Bytes
  | 91 :: inside =>
      match inside.dropWhile (· ≠ 93) with
      | _ :: rest => some rest
      | [] => none
  | text => some text

/-- `kMsgFieldTypeRegex` behind its `(?:^|\n)`: the type, and the text behind the match. Each
part of the pattern can end in one place only. -/
def matchMsgField (text : Bytes) : Option (Bytes × Bytes) := do
  let (type, rest) := (text.dropWhile isBlank).span isTypeCharacter
  if type = [] then none
  else
    let rest ← skipArraySuffix rest
    let (blank, rest) := rest.span isBlank
    if blank = [] then none else some (type, rest)

/-- `kIdlFieldTypeRegex` behind its `(?:^|\n)`. -/
def matchIdlInclude (text : Bytes) : Option (Bytes × Bytes) := do
  let rest ← text.dropPrefix? (ascii "#include")
  let (blank, rest) := rest.span isBlank
  if blank = [] then none
  else
    match rest with
    | opening :: rest =>
        let (type, rest) := rest.span isTypeCharacter
        if (opening ≠ 34 ∧ opening ≠ 60) ∨ type = [] then none
        else
          let rest ← rest.dropPrefix? (ascii ".idl")
          match rest with
          | closing :: rest => if closing ≠ 34 ∧ closing ≠ 62 then none else some (type, rest)
          | [] => none
    | [] => none

def matchField : DefinitionFormat → Bytes → Option (Bytes × Bytes)
  | .msg => matchMsgField
  | .idl => matchIdlInclude

theorem skipArraySuffix_suffix {text rest : Bytes} (skipped : skipArraySuffix text = some rest) :
    rest <:+ text := by
  unfold skipArraySuffix at skipped
  split at skipped
  case h_2 =>
    cases skipped
    exact List.suffix_rfl
  case h_1 inside =>
    split at skipped
    case h_2 => cases skipped
    case h_1 behind =>
      cases skipped
      have closed : inside.dropWhile (· ≠ 93) <:+ inside := List.dropWhile_suffix _
      rw [behind] at closed
      exact ((List.suffix_cons _ _).trans closed).trans (List.suffix_cons _ _)

theorem matchMsgField_suffix {text type rest : Bytes} (found : matchMsgField text = some (type, rest)) :
    rest <:+ text := by
  simp only [matchMsgField, List.span_eq_takeWhile_dropWhile] at found
  split_ifs at found
  obtain ⟨behind, skipped, found⟩ := Option.bind_eq_some_iff.mp found
  split_ifs at found
  cases found
  exact (List.dropWhile_suffix _).trans ((skipArraySuffix_suffix skipped).trans
    ((List.dropWhile_suffix _).trans (List.dropWhile_suffix _)))

theorem suffix_of_dropPrefix? {text start rest : Bytes} (dropped : text.dropPrefix? start = some rest) :
    rest <:+ text := by
  obtain ⟨start, rfl, -⟩ := List.dropPrefix?_eq_some_iff.mp dropped
  exact List.suffix_append _ _

theorem matchIdlInclude_suffix {text type rest : Bytes}
    (found : matchIdlInclude text = some (type, rest)) : rest <:+ text := by
  simp only [matchIdlInclude, List.span_eq_takeWhile_dropWhile] at found
  obtain ⟨directive, dropped, found⟩ := Option.bind_eq_some_iff.mp found
  have start := (List.dropWhile_suffix isBlank).trans (suffix_of_dropPrefix? dropped)
  split_ifs at found
  split at found
  case h_2 => cases found
  case h_1 opening included quoted =>
    rw [quoted] at start
    split_ifs at found
    obtain ⟨extension, cut, found⟩ := Option.bind_eq_some_iff.mp found
    have name := (suffix_of_dropPrefix? cut).trans (List.dropWhile_suffix isTypeCharacter)
    split at found
    case h_2 => cases found
    case h_1 closing behind =>
      split_ifs at found
      cases found
      exact (List.suffix_cons _ _).trans (name.trans ((List.suffix_cons _ _).trans start))

theorem matchField_suffix {format : DefinitionFormat} {text type rest : Bytes}
    (found : matchField format text = some (type, rest)) : rest <:+ text := by
  cases format with
  | msg => exact matchMsgField_suffix found
  | idl => exact matchIdlInclude_suffix found

/-- The search for the first newline with a match behind it. -/
def searchField (format : DefinitionFormat) : Bytes → Option (Bytes × Bytes)
  | [] => none
  | octet :: text =>
      if octet = 10 then (matchField format text).or (searchField format text) else searchField format text

theorem searchField_length {format : DefinitionFormat} {text type rest : Bytes}
    (found : searchField format text = some (type, rest)) : rest.length < text.length := by
  induction text with
  | nil => cases found
  | cons octet text ih =>
      rw [searchField] at found
      split_ifs at found
      · rcases Option.or_eq_some_iff.mp found with here | ⟨-, later⟩
        · exact Nat.lt_succ_of_le (matchField_suffix here).length_le
        · exact Nat.lt_succ_of_lt (ih later)
      · exact Nat.lt_succ_of_lt (ih found)

def fieldTypesFrom (format : DefinitionFormat) (text : Bytes) : List Bytes :=
  match _found : searchField format text with
  | none => []
  | some (type, rest) => type :: fieldTypesFrom format rest
termination_by text.length
decreasing_by exact searchField_length _found

/-- The types the regex iterator captures. Only the first search is at the start of the text,
where `^` matches. -/
def fieldTypes (format : DefinitionFormat) (text : Bytes) : List Bytes :=
  match matchField format text with
  | some (type, rest) => type :: fieldTypesFrom format rest
  | none => fieldTypesFrom format text

/-- A field type of a definition as a dependency: none for a primitive type, and with the
package of the definition when it names none. -/
def dependencyName (spec : DefinitionSpec) (format : DefinitionFormat) (type : Bytes) : Option Bytes :=
  if format = .msg ∧ kPrimitiveTypes.contains type then none
  else if format = .msg ∧ slash ∉ type then some (spec.packageName ++ ascii "/" ++ type)
  else some type

/-- The elements of the `std::set`, in its order. -/
def definitionDependencies (spec : DefinitionSpec) (format : DefinitionFormat) : List Bytes :=
  ((fieldTypes format spec.text).filterMap (dependencyName spec format)).dedup.insertionSort (· ≤ ·)

theorem definitionDependencies_sorted (spec : DefinitionSpec) (format : DefinitionFormat) :
    (definitionDependencies spec format).Pairwise (· < ·) := by
  have ordered := List.pairwise_insertionSort (· ≤ ·)
    ((fieldTypes format spec.text).filterMap (dependencyName spec format)).dedup
  have distinct : (definitionDependencies spec format).Nodup :=
    ((List.perm_insertionSort (· ≤ ·) _).nodup_iff).mpr (List.nodup_dedup _)
  refine (ordered.and distinct).imp fun {first second} both => ?_
  exact Std.lt_of_le_of_ne both.1 both.2

/-! ## Definitions as a graph -/

section Graph

variable (env : Environment) (format : DefinitionFormat)

def Loadable (type : Bytes) : Prop := ∃ spec, loadDefinition env type format = .ok spec

/-- What the definition of a type depends on; nothing, when it cannot be loaded. -/
def dependencies (type : Bytes) : List Bytes :=
  match loadDefinition env type format with
  | .ok spec => definitionDependencies spec format
  | .error _ => []

def definitionText (type : Bytes) : Bytes :=
  match loadDefinition env type format with
  | .ok spec => spec.text
  | .error _ => []

end Graph

variable {env : Environment} {format : DefinitionFormat} {type : Bytes}

theorem dependencies_sorted : (dependencies env format type).Pairwise (· < ·) := by
  unfold dependencies
  split
  · exact definitionDependencies_sorted _ _
  · exact List.Pairwise.nil

theorem loadDefinition_eq_ok {spec : DefinitionSpec} (loaded : loadDefinition env type format = .ok spec) :
    ∃ resource path, (spec.packageName, resource) ∈ env.resources ∧ (path, spec.text) ∈ env.files := by
  simp only [loadDefinition] at loaded
  split at loaded
  case h_1 => cases loaded
  case h_2 packageName name _ =>
    split at loaded
    case h_1 => cases loaded
    case h_2 resource indexed =>
      split at loaded
      case h_1 => cases loaded
      case h_2 relativePath _ =>
        split at loaded
        case h_1 => cases loaded
        case h_2 text readable =>
          cases loaded
          exact ⟨_, _, mem_of_lookup indexed, mem_of_lookup readable⟩

/-- Names may be spelled in infinitely many ways, but finitely many stand in the definitions. -/
theorem finite_dependencies (env : Environment) (format : DefinitionFormat) :
    {dependency | ∃ type, dependency ∈ dependencies env format type}.Finite := by
  have finite : (⋃ resource ∈ {resource | resource ∈ env.resources}, ⋃ file ∈ {file | file ∈ env.files},
      {dependency | dependency ∈ definitionDependencies ⟨resource.1, file.2⟩ format}).Finite :=
    (List.finite_toSet _).biUnion fun _ _ => (List.finite_toSet _).biUnion fun _ _ => List.finite_toSet _
  refine finite.subset ?_
  rintro dependency ⟨type, member⟩
  unfold dependencies at member
  split at member
  case h_2 => cases member
  case h_1 spec loaded =>
    obtain ⟨resource, path, indexed, readable⟩ := loadDefinition_eq_ok loaded
    simp only [Set.mem_iUnion]
    exact ⟨_, indexed, _, readable, member⟩

end RosPortal.Schema.Renderer
