import RosPortal.Config.Generator

/-! The generated config parser, as the functions that the templates write for a schema model,
over the nodes of a YAML document. A function sees itself and those declared before it. -/

set_option autoImplicit false

namespace RosPortal.Config

structure Mark where
  line : Int
  column : Int
deriving DecidableEq, Repr

inductive Node where
  | null (mark : Mark)
  | scalar (mark : Mark) (text : String)
  | sequence (mark : Mark) (entries : List Node)
  | map (mark : Mark) (entries : List (Node × Node))

namespace Node

def mark : Node → Mark
  | null mark | scalar mark _ | sequence mark _ | map mark _ => mark

def text? : Node → Option String
  | scalar _ text => some text
  | _ => none

def entries? : Node → Option (List Node)
  | sequence _ entries => some entries
  | _ => none

def pairs? : Node → Option (List (Node × Node))
  | map _ entries => some entries
  | _ => none

def findPair (pairs : List (Node × Node)) (key : String) : Option Node :=
  (pairs.find? fun pair => pair.1.text? = some key).map Prod.snd

/-- `node[key]` on a map: the value of the first pair with the key. -/
def find (node : Node) (key : String) : Option Node := node.pairs?.bind fun pairs => findPair pairs key

mutual

def height : Node → Nat
  | null _ | scalar _ _ => 0
  | sequence _ entries => heightOfEntries entries + 1
  | map _ pairs => heightOfPairs pairs + 1

def heightOfEntries : List Node → Nat
  | [] => 0
  | entry :: entries => max entry.height (heightOfEntries entries)

def heightOfPairs : List (Node × Node) → Nat
  | [] => 0
  | (_, value) :: pairs => max value.height (heightOfPairs pairs)

end

end Node

structure ConfigError where
  path : String
  expected : String
  detail : String
deriving DecidableEq, Repr

/-- A configuration error, or a call of a function that is not declared. -/
inductive Failure where
  | config (error : ConfigError)
  | stuck
deriving DecidableEq, Repr

/-- The conversions of the YAML library, and what the language makes of doubles. -/
structure Conversions (Double : Type) where
  asInt : String → Option Int
  asDouble : String → Option Double
  asBool : String → Option Bool
  badConversion : Mark → String
  less : Double → Double → Bool
  ofRat : Rat → Double
  generalFormat : Rat → String
  fixedFormat : Double → String

/-- What a member of a struct holds; `defaulted` is a struct that no function has filled. -/
inductive Value (Double : Type) where
  | string (text : String)
  | integer (value : Int)
  | number (value : Double)
  | boolean (value : Bool)
  | enum (value : String)
  | array (entries : List (Value Double))
  | object (fields : List (String × Option (Value Double)))
  | defaulted (name : String)

def fieldPath (path field : String) : String := path ++ "." ++ field

def itemPath (path : String) (index : Nat) : String := path ++ "[" ++ toString index ++ "]"

def nodeContext (path : String) (node : Node) : String :=
  if node.mark.line < 0 ∨ node.mark.column < 0 then path
  else path ++ " at line " ++ toString (node.mark.line + 1) ++ ", column " ++ toString (node.mark.column + 1)

section Helpers

variable {Result : Type}

def fail (path : String) (node : Node) (expected detail : String) : Except Failure Result :=
  .error (.config ⟨nodeContext path node, expected, detail⟩)

def failMissing (path expected : String) : Except Failure Result :=
  .error (.config ⟨path, expected, "missing required field"⟩)

def requireMap (node : Node) (path : String) : Except Failure (List (Node × Node)) :=
  match node.pairs? with
  | none => fail path node "map" "found non-map value"
  | some pairs => .ok pairs

def requireSequence (node : Node) (path : String) : Except Failure (List Node) :=
  match node.entries? with
  | none => fail path node "sequence" "found non-sequence value"
  | some entries => .ok entries

def scalarString (node : Node) (path : String) : Except Failure String :=
  match node.text? with
  | none => fail path node "string" "found non-scalar value"
  | some text => .ok text

def mapKeyToString (key : Node) (path : String) : Except Failure String :=
  match key.text? with
  | none => fail path key "string key" "found non-scalar map key"
  | some text => .ok text

def rejectUnknownPairs (allowed : List String) (path : String) : List (Node × Node) → Except Failure Unit
  | [] => .ok ()
  | (key, _) :: pairs =>
      (mapKeyToString key path).bind fun name =>
        if allowed.contains name then rejectUnknownPairs allowed path pairs
        else fail (path ++ "." ++ name) key "known field" ("unknown field '" ++ name ++ "'")

def rejectUnknownFields (node : Node) (allowed : List String) (path : String) : Except Failure Unit :=
  (requireMap node path).bind (rejectUnknownPairs allowed path)

end Helpers

/-- What an `int` holds of an integer literal. -/
def intLiteral (value : Int) : Int := value.bmod (2 ^ 32)

/-- The separator that `expectedStringValues` writes before the value with this index. -/
def valueSeparator (index size : Nat) : String :=
  if index = 0 then "" else if index + 1 = size then if size = 2 then " or " else ", or " else ", "

def expectedStringValues (values : List String) : String :=
  String.join (values.zipIdx.map fun entry => valueSeparator entry.2 values.length ++ "'" ++ entry.1 ++ "'")

def integerExpected : Option Int → String
  | none => "integer"
  | some minimum => if minimum = 1 then "positive integer" else "integer >= " ++ toString minimum

section Values

variable {Double : Type} (conversions : Conversions Double)

def numberExpected : Option Rat → String
  | none => "number"
  | some minimum => "number >= " ++ conversions.generalFormat minimum

def parseStringValue (node : Node) (path : String) (requireNonempty : Bool) :
    Except Failure (Value Double) :=
  (scalarString node path).bind fun text =>
    if requireNonempty && text.isEmpty then fail path node "nonempty string" "found empty string"
    else .ok (.string text)

def parseIntegerValue (node : Node) (path : String) (minimum : Option Int) (expected : String) :
    Except Failure (Value Double) :=
  match node.text? with
  | none => fail path node expected "found non-scalar value"
  | some text =>
      match conversions.asInt text with
      | none => fail path node expected (conversions.badConversion node.mark)
      | some value =>
          match minimum with
          | none => .ok (.integer value)
          | some least =>
              if value < least then
                fail path node expected
                  (if least = 1 then "value must be greater than zero"
                    else "value must be at least " ++ toString least)
              else .ok (.integer value)

def parseNumberValue (node : Node) (path : String) (minimum : Option Double) (expected : String) :
    Except Failure (Value Double) :=
  match node.text? with
  | none => fail path node expected "found non-scalar value"
  | some text =>
      match conversions.asDouble text with
      | none => fail path node expected (conversions.badConversion node.mark)
      | some value =>
          match minimum with
          | none => .ok (.number value)
          | some least =>
              if conversions.less value least then
                fail path node expected ("value must be at least " ++ conversions.fixedFormat least)
              else .ok (.number value)

def parseBooleanValue (node : Node) (path : String) : Except Failure (Value Double) :=
  match node.text? with
  | none => fail path node "boolean" "found non-scalar value"
  | some text =>
      match conversions.asBool text with
      | none => fail path node "boolean" (conversions.badConversion node.mark)
      | some value => .ok (.boolean value)

/-- `parse` of the canonical enum, called with the values that are allowed here. -/
def parseEnumValue (canonical allowed : List String) (node : Node) (path : String) :
    Except Failure (Value Double) :=
  (scalarString node path).bind fun text =>
    if allowed.contains text then
      if canonical.contains text then .ok (.enum text)
      else fail path node (expectedStringValues allowed) ("found '" ++ text ++ "'")
    else fail path node (expectedStringValues allowed) ("found '" ++ text ++ "'")

def parseConstString (value : String) (node : Node) (path : String) : Except Failure (Value Double) :=
  (scalarString node path).bind fun text =>
    if text ≠ value then fail path node ("'" ++ value ++ "'") ("found '" ++ text ++ "'")
    else .ok (.string text)

/-- The expected text of a required field that is missing. -/
def missingExpected (enums : List (String × List String)) : TypeInfo → String
  | .constString _ => "string"
  | .string nonempty => if nonempty then "nonempty string" else "string"
  | .integer minimum => integerExpected minimum
  | .number minimum => numberExpected conversions minimum
  | .boolean => "boolean"
  | .enum name => expectedStringValues ((enums.lookup name).getD [])
  | .object _ => "map"
  | .array _ => "sequence"

def literalValue (info : TypeInfo) : Literal → Option (Value Double)
  | .string text =>
      match info with
      | .enum _ => some (.enum text)
      | _ => some (.string text)
  | .number number =>
      match info with
      | .number _ => some (.number (conversions.ofRat number.value))
      | _ => some (.integer (intLiteral number.toInt))
  | .boolean value => some (.boolean value)
  | .other => none

/-- What a member holds before its field is read. The root's structs are held in place. -/
def memberDefault (root : Bool) (field : FieldSpec) : Option (Value Double) :=
  match field.default with
  | some literal => literalValue conversions field.typeInfo literal
  | none =>
      match field.typeInfo with
      | .array _ => some (.array [])
      | .object name => if root then some (.defaulted name) else none
      | _ => none

end Values

section Functions

variable {Double : Type} (conversions : Conversions Double) (enums : List (String × List String))

/-- How the value of a field or of an entry is read. -/
abbrev ParseValue (Double : Type) := TypeInfo → Node → String → Except Failure (Value Double)

/-- The function of the object, with all that it sees. -/
def enterFunction (name : String) : List ObjectSpec → Option (ObjectSpec × List ObjectSpec)
  | [] => none
  | spec :: declared =>
      if spec.schemaName = name then some (spec, spec :: declared) else enterFunction name declared

/-- The part of `field_parse` for a field that is there: an optional constant is not read. -/
def readField (parse : ParseValue Double) (root : Bool) (field : FieldSpec) (child : Node) (path : String) :
    Except Failure (Option (Value Double)) :=
  match field.required, field.typeInfo with
  | false, .constString _ => .ok (memberDefault conversions root field)
  | _, info => (parse info child path).map some

def parseField (parse : ParseValue Double) (root : Bool) (node : Node) (path : String) (field : FieldSpec) :
    Except Failure (String × Option (Value Double)) :=
  let value :=
    match node.find field.yamlName with
    | none =>
        if field.required then
          failMissing (fieldPath path field.yamlName) (missingExpected conversions enums field.typeInfo)
        else .ok (memberDefault conversions root field)
    | some child => readField conversions parse root field child (fieldPath path field.yamlName)
  value.map fun value => (field.yamlName, value)

def parseObject (parse : ParseValue Double) (root : Bool) (spec : ObjectSpec) (node : Node) (path : String) :
    Except Failure (Value Double) :=
  (rejectUnknownFields node (spec.fields.map FieldSpec.yamlName) path).bind fun _ =>
    (spec.fields.mapM (parseField conversions enums parse root node path)).map .object

def parseEntries (parse : Node → String → Except Failure (Value Double)) (path : String) :
    Nat → List Node → Except Failure (List (Value Double))
  | _, [] => .ok []
  | index, entry :: entries =>
      (parse entry (itemPath path index)).bind fun value =>
        (parseEntries parse path (index + 1) entries).map (value :: ·)

/-- The loop of `array_assignment`: entries that are arrays or constants are not read. -/
def readEntries (parse : ParseValue Double) (item : TypeInfo) (path : String) (entries : List Node) :
    Except Failure (List (Value Double)) :=
  match item with
  | .array _ | .constString _ => .ok []
  | item => parseEntries (parse item) path 0 entries

def parseSequence (parse : ParseValue Double) (item : TypeInfo) (node : Node) (path : String) :
    Except Failure (Value Double) :=
  (requireSequence node path).bind fun entries => (readEntries parse item path entries).map .array

/-- The call that reads a value, where `declared` are the functions in scope, latest first. -/
def parseValue : Nat → List ObjectSpec → ParseValue Double
  | 0, _, _, _, _ => .error .stuck
  | fuel + 1, declared, info, node, path =>
      match info with
      | .constString value => parseConstString value node path
      | .string nonempty => parseStringValue node path nonempty
      | .integer minimum => parseIntegerValue conversions node path (minimum.map intLiteral) (integerExpected minimum)
      | .number minimum =>
          parseNumberValue conversions node path (minimum.map conversions.ofRat) (numberExpected conversions minimum)
      | .boolean => parseBooleanValue conversions node path
      | .enum name =>
          let allowed := (enums.lookup name).getD []
          parseEnumValue (enumCanonical enums name allowed).2 allowed node path
      | .object name =>
          match enterFunction name declared with
          | none => .error .stuck
          | some (spec, visible) =>
              parseObject conversions enums (parseValue fuel visible) false spec node path
      | .array item => parseSequence (parseValue fuel declared) item node path

end Functions

section Root

variable {Double : Type} (conversions : Conversions Double) (model : SchemaModel)

def rootPath : String := "$"

def parseRoot (root : Node) : Except Failure (Value Double) :=
  (rejectUnknownFields root model.rootProperties rootPath).bind fun _ =>
    match root.find model.rootKey with
    | none => failMissing (fieldPath rootPath model.rootKey) "map"
    | some node =>
        parseObject conversions model.enumDefs
          (parseValue conversions model.enumDefs root.height model.objectSpecs.reverse) true model.rootSpec node
          (fieldPath rootPath model.rootKey)

end Root

end RosPortal.Config
