import Mathlib.Data.Set.Finite.Lattice
import RosPortal.Cli.Handlers

/-! The helpers that read and write the lines of an interface definition. -/

set_option autoImplicit false

namespace RosPortal.Cli.InterfaceShow

open JsonText (Bytes ascii getlines mem_of_lookup)

/-- The share directories of the ament index, by package, and the files that can be opened. -/
structure Environment where
  shareDirectories : List (Bytes × Bytes)
  files : List (Bytes × Bytes)

def slash : UInt8 := 47

/-- The parts between slashes. A slash at the end has an empty part behind it. -/
def splitInterfaceType (type : Bytes) : List Bytes := type.splitOn slash

def interfaceKinds : List Bytes := [ascii "msg", ascii "srv", ascii "action"]

def definitionPath (shareDirectory interfaceKind interfaceName : Bytes) : Bytes :=
  shareDirectory ++ ascii "/" ++ interfaceKind ++ ascii "/" ++ interfaceName ++ (ascii "." ++ interfaceKind)

def interfacePath (env : Environment) (type : Bytes) : Option Bytes :=
  match splitInterfaceType type with
  | [packageName, interfaceKind, interfaceName] =>
      if packageName = [] ∨ interfaceKind = [] ∨ interfaceName = [] then none
      else if !interfaceKinds.contains interfaceKind then none
      else
        (env.shareDirectories.lookup packageName).map
          fun shareDirectory => definitionPath shareDirectory interfaceKind interfaceName
  | _ => none

/-- The lines of a definition, each without a carriage return at its end. -/
def inputLines (text : Bytes) : List Bytes :=
  (getlines text).map fun line => if line.getLast? = some 13 then line.dropLast else line

/-- What precedes the first `[`, and of that what precedes the first `<`. -/
def removeArraySuffix (type : Bytes) : Bytes := (type.takeWhile (· ≠ 91)).takeWhile (· ≠ 60)

def kPrimitives : List Bytes :=
  ["bool", "byte", "char", "float32", "float64", "int8", "uint8", "int16", "uint16", "int32", "uint32",
    "int64", "uint64", "string", "wstring"].map ascii

def isPrimitiveInterfaceType (type : Bytes) : Bool := kPrimitives.contains type

/-- What precedes the first `#`, or the whole line, without white space at its end. -/
def stripTrailingComment (line : Bytes) : Bytes := rightTrim (line.takeWhile (· ≠ 35))

/-- `stream >> token`: the token, and what is left of the stream. -/
def nextToken (stream : Bytes) : Bytes × Bytes := (leftTrim stream).span fun octet => !isSpace octet

/-- `std::isupper` in the C locale, of the first character. -/
def startsUpper (token : Bytes) : Bool :=
  match token with
  | first :: _ => 65 ≤ first && first ≤ 90
  | [] => false

def nestedInterfaceTypeFromLine (packageName line : Bytes) : Option Bytes :=
  let trimmed := leftTrim (stripTrailingComment line)
  if trimmed = [] ∨ trimmed = ascii "---" then none
  else
    let (typeToken, stream) := nextToken trimmed
    let (nameToken, _) := nextToken stream
    if typeToken = [] ∨ nameToken = [] ∨ 61 ∈ nameToken then none
    else
      let typeToken := removeArraySuffix typeToken
      if isPrimitiveInterfaceType typeToken then none
      else
        match splitInterfaceType typeToken with
        | [_] => if startsUpper typeToken then some (packageName ++ ascii "/msg/" ++ typeToken) else none
        | [package, name] =>
            if package ≠ [] ∧ name ≠ [] then some (package ++ ascii "/msg/" ++ name) else none
        | [_, kind, _] => if kind = ascii "msg" then some typeToken else none
        | _ => none

/-- What `appendRenderedInterfaceLine` appends for a line. -/
def renderedInterfaceLine (line : Bytes) (showComments : Bool) (indentLevel : Nat) : Bytes :=
  let indent := List.replicate indentLevel (9 : UInt8)
  if showComments then (if line = [] then [] else indent ++ line) ++ [10]
  else
    let trimmed := leftTrim line
    if trimmed.head? = none ∨ trimmed.head? = some 35 then []
    else
      let withoutComment := stripTrailingComment line
      if withoutComment = [] then [] else indent ++ withoutComment ++ [10]

/-- The file of a type, when the type can be resolved and the file opened. -/
def openDefinition (env : Environment) (type : Bytes) : Option Bytes :=
  (interfacePath env type).bind fun path => env.files.lookup path

/-! ## The types that can be opened -/

variable {env : Environment} {type : Bytes}

theorem interfacePath_eq_some {path : Bytes} (resolved : interfacePath env type = some path) :
    ∃ packageName interfaceKind interfaceName shareDirectory,
      type = [slash].intercalate [packageName, interfaceKind, interfaceName] ∧
        interfaceKind ∈ interfaceKinds ∧
        env.shareDirectories.lookup packageName = some shareDirectory ∧
        path = definitionPath shareDirectory interfaceKind interfaceName := by
  unfold interfacePath at resolved
  split at resolved
  case h_2 => cases resolved
  case h_1 packageName interfaceKind interfaceName parts =>
    split_ifs at resolved with empty kind
    obtain ⟨shareDirectory, found, rfl⟩ := Option.map_eq_some_iff.mp resolved
    refine ⟨_, _, _, _, ?_, by simpa using kind, found, rfl⟩
    rw [← parts, splitInterfaceType, List.intercalate_splitOn]

theorem definitionPath_injective {shareDirectory interfaceKind first second : Bytes}
    (same : definitionPath shareDirectory interfaceKind first =
      definitionPath shareDirectory interfaceKind second) : first = second :=
  List.append_cancel_left (List.append_cancel_right same)

/-- The types of a package and a kind whose definition is a given file. -/
def typesOf (package : Bytes × Bytes) (interfaceKind : Bytes) (file : Bytes × Bytes) : Set Bytes :=
  {type | ∃ interfaceName, type = [slash].intercalate [package.1, interfaceKind, interfaceName] ∧
    file.1 = definitionPath package.2 interfaceKind interfaceName}

theorem typesOf_subsingleton (package : Bytes × Bytes) (interfaceKind : Bytes) (file : Bytes × Bytes) :
    (typesOf package interfaceKind file).Subsingleton := by
  rintro _ ⟨first, rfl, firstPath⟩ _ ⟨second, rfl, secondPath⟩
  rw [definitionPath_injective (firstPath.symm.trans secondPath)]

/-- With finitely many packages and files, finitely many types can be opened. -/
theorem finite_openDefinition (env : Environment) :
    {type | (openDefinition env type).isSome}.Finite := by
  have finite : (⋃ package ∈ {package | package ∈ env.shareDirectories},
      ⋃ interfaceKind ∈ {interfaceKind | interfaceKind ∈ interfaceKinds},
        ⋃ file ∈ {file | file ∈ env.files}, typesOf package interfaceKind file).Finite :=
    (List.finite_toSet _).biUnion fun package _ => (List.finite_toSet _).biUnion fun interfaceKind _ =>
      (List.finite_toSet _).biUnion fun file _ => (typesOf_subsingleton package interfaceKind file).finite
  refine finite.subset fun type opened => ?_
  obtain ⟨text, opened⟩ := Option.isSome_iff_exists.mp opened
  obtain ⟨path, resolved, found⟩ := Option.bind_eq_some_iff.mp opened
  obtain ⟨packageName, interfaceKind, interfaceName, shareDirectory, split, kind, share, same⟩ :=
    interfacePath_eq_some resolved
  simp only [Set.mem_iUnion]
  exact ⟨_, mem_of_lookup share, _, kind, _, mem_of_lookup found, interfaceName, split, same⟩

end RosPortal.Cli.InterfaceShow
