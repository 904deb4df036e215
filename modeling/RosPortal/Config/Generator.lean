import RosPortal.Digits.Significant
import RosPortal.Ordering.Emission

/-! The generator of the config parser: from a JSON schema to the specs of the structs and of the
functions that read them, in the order in which they are emitted. -/

set_option autoImplicit false

namespace RosPortal.Config

/-- A number as the text of the schema gives it: with neither a fraction nor an exponent, or with one. -/
inductive Number where
  | int (value : Int)
  | float (value : Rat)
deriving DecidableEq, Repr

namespace Number

def value : Number → Rat
  | int value => value
  | float value => value

/-- `float(number)`, in the range in which doubles have all of their digits. -/
def toFloat (number : Number) : Rat := Digits.significant 2 53 number.value

/-- `int(number)`. -/
def toInt : Number → Int
  | int value => value
  | float value => (toFloat (float value)).num.tdiv (toFloat (float value)).den

/-- The number that `f"{float(number):g}"` writes. -/
def general (number : Number) : Rat := Digits.significant 10 6 number.toFloat

end Number

/-- A JSON value, other than null, that a schema gives as a constant or as a default. -/
inductive Literal where
  | string (text : String)
  | number (number : Number)
  | boolean (value : Bool)
  | other
deriving DecidableEq, Repr

/-- A JSON schema with the keywords of the config schema. -/
structure Schema where
  ref : Option String := none
  type : Option String := none
  const : Option Literal := none
  enum : Option (List String) := none
  minLength : Nat := 0
  minimum : Option Number := none
  items : Option Schema := none
  properties : List (String × Schema) := []
  required : List String := []
  additionalProperties : Bool := true
  default : Option Literal := none

/-- The root schema by its properties, and its `$defs`. -/
structure Document where
  properties : List (String × Schema)
  defs : List (String × Schema)

inductive TypeInfo where
  | constString (value : String)
  | string (nonempty : Bool)
  | integer (minimum : Option Int)
  | number (minimum : Option Rat)
  | boolean
  | enum (name : String)
  | object (name : String)
  | array (item : TypeInfo)
deriving DecidableEq, Repr

structure FieldSpec where
  yamlName : String
  typeInfo : TypeInfo
  required : Bool
  default : Option Literal
deriving DecidableEq, Repr

structure ObjectSpec where
  schemaName : String
  fields : List FieldSpec
deriving DecidableEq, Repr

structure SchemaModel where
  enumDefs : List (String × List String)
  rootProperties : List String
  rootKey : String
  rootSpec : ObjectSpec
  objectSpecs : List ObjectSpec
deriving DecidableEq, Repr

section Resolution

variable (defs : List (String × Schema))

def refName (ref : String) : Except String String :=
  if "#/$defs/".toList.isPrefixOf ref.toList then .ok (String.ofList (ref.toList.drop 8))
  else .error ("only local $defs references are supported, got '" ++ ref ++ "'")

def resolveRef (ref : String) : Except String Schema :=
  (refName ref).bind fun name =>
    match defs.lookup name with
    | none => .error ("unsupported or unknown schema reference '" ++ ref ++ "'")
    | some definition => .ok definition

/-- `depth` is what the interpreter's recursion limit leaves. -/
def resolveType : Nat → Schema → Except String Schema
  | depth, schema =>
      match schema.ref with
      | none => .ok schema
      | some ref =>
          match depth with
          | 0 => .error "maximum recursion depth exceeded"
          | depth + 1 => (resolveRef defs ref).bind (resolveType depth)

def collectEnumDefs : List (String × List String) :=
  defs.filterMap fun definition => definition.2.enum.map fun values => (definition.1, values)

/-- `set(first) < set(second)`. -/
def strictSubset (first second : List String) : Bool :=
  first.all second.contains && !second.all first.contains

/-- The element that a stable sort by length puts first. -/
def shortest : List (String × List String) → Option (String × List String)
  | [] => none
  | enum :: enums =>
      match shortest enums with
      | none => some enum
      | some other => if other.2.length < enum.2.length then some other else some enum

/-- `_canonicalize_enum_defs`, for one enum. -/
def enumCanonical (enums : List (String × List String)) (name : String) (values : List String) :
    String × List String :=
  (shortest (enums.filter fun candidate => candidate.1 ≠ name && strictSubset values candidate.2)).getD
    (name, values)

/-- `requires_nonempty` and the minima, as they are written out, are read off the schema here. -/
def scalarInfo (schema : Schema) : Option TypeInfo :=
  match schema.type with
  | some "string" => some (.string (0 < schema.minLength))
  | some "integer" => some (.integer (schema.minimum.map Number.toInt))
  | some "number" => some (.number (schema.minimum.map Number.general))
  | some "boolean" => some .boolean
  | _ => none

def refInfo (depth : Nat) (ref : String) : Except String TypeInfo :=
  (refName ref).bind fun name =>
    (resolveRef defs ref).bind fun definition =>
      (resolveType defs depth definition).bind fun resolved =>
        if ((collectEnumDefs defs).lookup name).isSome then .ok (.enum name)
        else if resolved.type = some "object" then .ok (.object name)
        else
          match scalarInfo resolved with
          | some info => .ok info
          | none => .error ("unsupported $ref target '" ++ ref ++ "'")

def typeInfo : Nat → Schema → Except String TypeInfo
  | 0, _ => .error "maximum recursion depth exceeded"
  | depth + 1, schema =>
      match schema.ref with
      | some ref => refInfo defs depth ref
      | none =>
          match schema.const with
          | some (.string value) => .ok (.constString value)
          | some _ => .error "only string const schema values are supported"
          | none =>
              if schema.enum.isSome then
                .error "inline enum schemas are not supported; define them under $defs"
              else if schema.type = some "array" then
                match schema.items with
                | none => .error "'items'"
                | some item => (typeInfo depth item).map .array
              else if schema.type = some "object" then
                .error "inline object schemas are not supported; define them under $defs"
              else
                match scalarInfo schema with
                | some info => .ok info
                | none => .error "unsupported schema type"

def fieldSpec (depth : Nat) (required : List String) (property : String × Schema) : Except String FieldSpec :=
  (typeInfo defs depth property.2).map fun info =>
    ⟨property.1, info, required.contains property.1, property.2.default⟩

def buildObjectSpec (depth : Nat) (schemaName : String) (schema : Schema) : Except String ObjectSpec :=
  (resolveType defs depth schema).bind fun schema =>
    if schema.type ≠ some "object" then .error ("expected " ++ schemaName ++ " to be an object schema")
    else (schema.properties.mapM (fieldSpec defs depth schema.required)).map (ObjectSpec.mk schemaName)

/-- The object a value of the type is read by, if any. -/
def TypeInfo.dependency : TypeInfo → Option String
  | .object name | .array (.object name) => some name
  | _ => none

def objectDependencies (spec : ObjectSpec) : List String :=
  (spec.fields.filterMap fun field => field.typeInfo.dependency).filter fun name => name ≠ spec.schemaName

def defObjectSpec (depth : Nat) (definition : String × Schema) : Except String (Option ObjectSpec) :=
  (resolveType defs depth definition.2).bind fun resolved =>
    if resolved.type ≠ some "object" then .ok none
    else (buildObjectSpec defs depth definition.1 definition.2).map some

/-- `_build_def_object_specs`. -/
def buildDefObjectSpecs (depth : Nat) : Except String (List ObjectSpec) :=
  (defs.mapM (defObjectSpec defs depth)).bind fun specs =>
    match Ordering.emit ObjectSpec.schemaName objectDependencies (specs.filterMap id) with
    | .ok order => .ok order
    | .error pending =>
        .error ("unsupported cycle in object schema definitions: " ++
          ", ".intercalate (pending.map ObjectSpec.schemaName).mergeSort)

end Resolution

/-- Whether `cpp_default_literal` renders the default. -/
def defaultFits : TypeInfo → Literal → Bool
  | .integer _, .number _ | .number _, .number _ => true
  | .boolean, .boolean _ => true
  | .string _, .string _ | .constString _, .string _ | .enum _, .string _ => true
  | _, _ => false

def ObjectSpec.defaultsFit (spec : ObjectSpec) : Bool :=
  spec.fields.all fun field => field.default.all (defaultFits field.typeInfo)

def configProperties (document : Document) : List (String × Schema) :=
  document.properties.filter fun property => !"$".toList.isPrefixOf property.1.toList

def findRootConfigKey (depth : Nat) (document : Document) : Except String (String × Schema) :=
  match configProperties document with
  | [property] =>
      (resolveType document.defs depth property.2).bind fun resolved =>
        if resolved.type ≠ some "object" then
          .error ("expected root property '" ++ property.1 ++ "' to be an object")
        else .ok property
  | _ => .error "expected root schema to contain exactly one config object property"

/-- `SchemaModel`, with the checks that rendering makes of the defaults. -/
def generate (depth : Nat) (document : Document) : Except String SchemaModel :=
  (findRootConfigKey depth document).bind fun root =>
    (buildObjectSpec document.defs depth root.1 root.2).bind fun rootSpec =>
      (buildDefObjectSpecs document.defs depth).bind fun objectSpecs =>
        if (rootSpec :: objectSpecs).all ObjectSpec.defaultsFit then
          .ok ⟨collectEnumDefs document.defs, document.properties.map Prod.fst, root.1, rootSpec, objectSpecs⟩
        else .error "default does not fit its type"

end RosPortal.Config
