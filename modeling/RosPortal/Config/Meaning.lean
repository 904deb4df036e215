import RosPortal.Config.Parser

/-! What a config schema means, apart from any parser: which YAML nodes it admits and which value
each stands for. A parser that is generated from a supported schema reads exactly this. -/

set_option autoImplicit false

namespace RosPortal.Config

/-- Which keyword decides what a schema admits. -/
inductive Shape where
  | reference (ref : String)
  | constant (value : String)
  | choice (values : List String)
  | typed (type : String)
  | none
deriving DecidableEq, Repr

def Schema.shape (schema : Schema) : Shape :=
  match schema.ref, schema.const, schema.enum, schema.type with
  | some ref, _, _, _ => .reference ref
  | _, some (.string value), _, _ => .constant value
  | _, _, some values, _ => .choice values
  | _, none, none, some type => .typed type
  | _, _, _, _ => .none

section Meaning

variable {Double : Type} (conversions : Conversions Double) (defs : List (String × Schema))

/-- A default of the schema that a property leads to. -/
def schemaLiteral (schema : Schema) : Literal → Option (Value Double)
  | .string text => if schema.enum.isSome then some (.enum text) else some (.string text)
  | .number number =>
      if schema.type = some "number" then some (.number (conversions.ofRat number.value))
      else if number.value.den = 1 then some (.integer number.value.num)
      else none
  | .boolean value => some (.boolean value)
  | .other => none

/-- What stands for a property that is absent: its default, or no entries for an array. -/
inductive Absent (schema : Schema) : Option (Value Double) → Prop where
  | literal {resolved : Schema} {literal : Literal} {depth : Nat} :
      schema.default = some literal → resolveType defs depth schema = .ok resolved →
      Absent schema (schemaLiteral conversions resolved literal)
  | array {resolved : Schema} {depth : Nat} :
      schema.default = none → resolveType defs depth schema = .ok resolved → resolved.type = some "array" →
      Absent schema (some (.array []))
  | nothing {resolved : Schema} {depth : Nat} :
      schema.default = none → resolveType defs depth schema = .ok resolved → resolved.type ≠ some "array" →
      Absent schema none

/-- The keys of a map are texts, all of them among the properties. -/
def KnownKeys (properties : List (String × Schema)) (pairs : List (Node × Node)) : Prop :=
  ∀ pair ∈ pairs, ∃ name ∈ properties.map Prod.fst, pair.1.text? = some name

mutual

/-- Under the schema, the node stands for the value. -/
inductive Denotes : Schema → Node → Value Double → Prop where
  | reference {schema definition : Schema} {ref : String} {node : Node} {value : Value Double} :
      schema.shape = .reference ref → resolveRef defs ref = .ok definition →
      Denotes definition node value → Denotes schema node value
  | constant {schema : Schema} {node : Node} {text : String} :
      schema.shape = .constant text → node.text? = some text → Denotes schema node (.string text)
  | choice {schema : Schema} {values : List String} {node : Node} {text : String} :
      schema.shape = .choice values → node.text? = some text → text ∈ values →
      Denotes schema node (.enum text)
  | string {schema : Schema} {node : Node} {text : String} :
      schema.shape = .typed "string" → node.text? = some text → schema.minLength ≤ text.length →
      Denotes schema node (.string text)
  | integer {schema : Schema} {node : Node} {text : String} {value : Int} :
      schema.shape = .typed "integer" → node.text? = some text → conversions.asInt text = some value →
      (∀ least ∈ schema.minimum, least.value ≤ value) → Denotes schema node (.integer value)
  | number {schema : Schema} {node : Node} {text : String} {value : Double} :
      schema.shape = .typed "number" → node.text? = some text → conversions.asDouble text = some value →
      (∀ least ∈ schema.minimum, conversions.less value (conversions.ofRat least.value) = false) →
      Denotes schema node (.number value)
  | boolean {schema : Schema} {node : Node} {text : String} {value : Bool} :
      schema.shape = .typed "boolean" → node.text? = some text → conversions.asBool text = some value →
      Denotes schema node (.boolean value)
  | array {schema item : Schema} {node : Node} {entries : List Node} {values : List (Value Double)} :
      schema.shape = .typed "array" → schema.items = some item → node.entries? = some entries →
      EntriesDenote item entries values → Denotes schema node (.array values)
  | object {schema : Schema} {node : Node} {pairs : List (Node × Node)}
      {fields : List (String × Option (Value Double))} :
      schema.shape = .typed "object" → node.pairs? = some pairs →
      (schema.additionalProperties = false → KnownKeys schema.properties pairs) →
      (∀ name ∈ schema.required, (Node.findPair pairs name).isSome = true) →
      FieldsDenote schema.properties pairs fields → Denotes schema node (.object fields)

inductive EntriesDenote : Schema → List Node → List (Value Double) → Prop where
  | nil {item : Schema} : EntriesDenote item [] []
  | cons {item : Schema} {entry : Node} {entries : List Node} {value : Value Double}
      {values : List (Value Double)} :
      Denotes item entry value → EntriesDenote item entries values →
      EntriesDenote item (entry :: entries) (value :: values)

inductive FieldsDenote : List (String × Schema) → List (Node × Node) →
    List (String × Option (Value Double)) → Prop where
  | nil {pairs : List (Node × Node)} : FieldsDenote [] pairs []
  | present {name : String} {property : Schema} {properties : List (String × Schema)}
      {pairs : List (Node × Node)} {child : Node} {value : Value Double}
      {fields : List (String × Option (Value Double))} :
      Node.findPair pairs name = some child → Denotes property child value →
      FieldsDenote properties pairs fields →
      FieldsDenote ((name, property) :: properties) pairs ((name, some value) :: fields)
  | absent {name : String} {property : Schema} {properties : List (String × Schema)}
      {pairs : List (Node × Node)} {value : Option (Value Double)}
      {fields : List (String × Option (Value Double))} :
      Node.findPair pairs name = none → Absent conversions defs property value →
      FieldsDenote properties pairs fields →
      FieldsDenote ((name, property) :: properties) pairs ((name, value) :: fields)

end

/-- The documents that the root schema admits: a map of its properties with the config object
under its name. Properties whose names start with a dollar sign are for editors. -/
def DocumentDenotes (document : Document) (root : Node) (value : Value Double) : Prop :=
  ∃ pairs name schema node, root.pairs? = some pairs ∧ KnownKeys document.properties pairs ∧
    configProperties document = [(name, schema)] ∧ Node.findPair pairs name = some node ∧
    Denotes conversions document.defs schema node value

end Meaning

section Supported

/-- Nothing but a default beside a reference. -/
def Schema.bareReference (schema : Schema) : Bool :=
  schema.type = none && schema.const = none && schema.enum = none && schema.minLength = 0 &&
    schema.minimum = none && schema.items.isNone && schema.properties.isEmpty && schema.required.isEmpty

/-- A schema of text, with at most the restriction that the text is not empty. -/
def Schema.textual (schema : Schema) : Bool :=
  (schema.type = none || schema.type = some "string") && schema.minLength ≤ 1

/-- The entries of an array: no further arrays, and no constants. -/
def Schema.supportedEntry (schema : Schema) : Bool :=
  match schema.ref with
  | some _ => schema.bareReference
  | none => schema.const.isNone && schema.enum.isNone && schema.minLength ≤ 1 && schema.type ≠ some "array"

def Schema.supportedProperty (schema : Schema) (required : Bool) : Bool :=
  match schema.ref with
  | some _ => schema.bareReference
  | none =>
      if schema.const.isSome then required && schema.enum.isNone && schema.textual
      else schema.enum.isNone && schema.minLength ≤ 1 &&
        (schema.type ≠ some "array" || schema.items.all Schema.supportedEntry)

def Schema.supportedObject (schema : Schema) : Bool :=
  !schema.additionalProperties && schema.required.all (schema.properties.map Prod.fst).contains &&
    decide (schema.properties.map Prod.fst).Nodup &&
      schema.properties.all fun property =>
        property.2.supportedProperty (schema.required.contains property.1)

/-- A definition is an enum, an object or a scalar, and not merely another name for one. -/
def Schema.supportedDefinition (schema : Schema) : Bool :=
  schema.ref.isNone && schema.const.isNone && schema.minLength ≤ 1 &&
    (if schema.enum.isSome then schema.textual
      else schema.type ≠ some "object" || schema.supportedObject)

/-- The config object is given in place, with all of its own objects required. -/
def Schema.supportedRoot (defs : List (String × Schema)) (schema : Schema) : Bool :=
  schema.ref.isNone && schema.const.isNone && schema.enum.isNone && schema.supportedObject &&
    schema.properties.all fun property =>
      schema.required.contains property.1 ||
        match property.2.ref with
        | none => true
        | some ref =>
            match resolveRef defs ref with
            | .error _ => false
            | .ok definition => definition.enum.isSome || definition.type ≠ some "object"

/-- The schemas that the templates have code for. -/
def Document.supported (document : Document) : Bool :=
  decide (document.defs.map Prod.fst).Nodup && document.defs.all (·.2.supportedDefinition) &&
    (configProperties document).all (·.2.supportedRoot document.defs)

end Supported

section Written

/-! Numbers and texts that the generated code holds as the schema gives them. -/

/-- An integer that an `int` holds. -/
def Number.fitsInt (number : Number) : Bool :=
  number.value.den = 1 && decide (-2147483648 ≤ number.value) && decide (number.value ≤ 2147483647)

/-- A number in the range in which doubles have all of their digits. -/
def Number.normal (number : Number) : Bool :=
  number.value = 0 || (decide (1 / 10 ^ 300 ≤ |number.value|) && decide (|number.value| ≤ 10 ^ 300))

/-- A default that a `double` is given: an integer literal has 64 bits. -/
def Number.fitsDouble (number : Number) : Bool :=
  match number with
  | .int value => decide (|value| < 2 ^ 63)
  | .float _ => number.normal

/-- A number of at most six significant digits. -/
def Number.short (number : Number) : Bool :=
  number.normal && decide (Digits.significant 10 6 number.value = number.value)

def Schema.exactMinimum (schema : Schema) : Bool :=
  match schema.type with
  | some "integer" => schema.minimum.all Number.fitsInt
  | some "number" => schema.minimum.all Number.short
  | _ => true

/-- The type that a property has itself or by its reference. -/
def Schema.scalarType (defs : List (String × Schema)) (schema : Schema) : Option String :=
  match schema.ref with
  | none => schema.type
  | some ref =>
      match resolveRef defs ref with
      | .error _ => none
      | .ok definition => definition.type

def Schema.exactDefault (defs : List (String × Schema)) (schema : Schema) : Bool :=
  match schema.default with
  | some (.number number) =>
      if schema.scalarType defs = some "number" then number.fitsDouble else number.fitsInt
  | _ => true

/-- A text that stands between quotes as it is: no quote, no backslash and no control character. -/
def plainText (text : String) : Bool :=
  text.toList.all fun character => decide (32 ≤ character.toNat) && !([34, 92].contains character.toNat)

def Schema.exactProperty (defs : List (String × Schema)) (schema : Schema) : Bool :=
  schema.exactMinimum && schema.exactDefault defs && schema.items.all Schema.exactMinimum &&
    match schema.const with
    | some (.string text) => plainText text
    | _ => true

def Schema.exactObject (defs : List (String × Schema)) (schema : Schema) : Bool :=
  schema.properties.all fun property => plainText property.1 && property.2.exactProperty defs

def Schema.exactDefinition (defs : List (String × Schema)) (schema : Schema) : Bool :=
  schema.exactMinimum && schema.enum.all (·.all plainText) && schema.exactObject defs

/-- The schemas whose numbers and texts the generated code has as they are. -/
def Document.exact (document : Document) : Bool :=
  document.properties.all (plainText ·.1) && document.defs.all (·.2.exactDefinition document.defs) &&
    (configProperties document).all (·.2.exactObject document.defs)

end Written

section Inversion

variable {Double : Type} {conversions : Conversions Double} {defs : List (String × Schema)}
  {schema : Schema} {node : Node} {value : Value Double}

theorem denotes_reference {ref : String} {definition : Schema} (shape : schema.shape = .reference ref)
    (resolved : resolveRef defs ref = .ok definition) :
    Denotes conversions defs schema node value ↔ Denotes conversions defs definition node value := by
  constructor
  · intro denotes
    cases denotes with
    | reference shaped found inner =>
        cases shape.symm.trans shaped
        cases resolved.symm.trans found
        exact inner
    | constant shaped | choice shaped | string shaped | integer shaped | number shaped | boolean shaped
    | array shaped | object shaped => simp [shape] at shaped
  · exact .reference shape resolved

theorem denotes_constant {text : String} (shape : schema.shape = .constant text) :
    Denotes conversions defs schema node value ↔ node.text? = some text ∧ value = .string text := by
  constructor
  · intro denotes
    cases denotes with
    | constant shaped found =>
        cases shape.symm.trans shaped
        exact ⟨found, rfl⟩
    | reference shaped | choice shaped | string shaped | integer shaped | number shaped | boolean shaped
    | array shaped | object shaped => simp [shape] at shaped
  · rintro ⟨found, rfl⟩
    exact .constant shape found

theorem denotes_choice {values : List String} (shape : schema.shape = .choice values) :
    Denotes conversions defs schema node value ↔
      ∃ text, node.text? = some text ∧ text ∈ values ∧ value = .enum text := by
  constructor
  · intro denotes
    cases denotes with
    | choice shaped found member =>
        cases shape.symm.trans shaped
        exact ⟨_, found, member, rfl⟩
    | reference shaped | constant shaped | string shaped | integer shaped | number shaped | boolean shaped
    | array shaped | object shaped => simp [shape] at shaped
  · rintro ⟨text, found, member, rfl⟩
    exact .choice shape found member

theorem denotes_string (shape : schema.shape = .typed "string") :
    Denotes conversions defs schema node value ↔
      ∃ text, node.text? = some text ∧ schema.minLength ≤ text.length ∧ value = .string text := by
  constructor
  · intro denotes
    cases denotes with
    | string _ found long => exact ⟨_, found, long, rfl⟩
    | reference shaped | constant shaped | choice shaped | integer shaped | number shaped | boolean shaped
    | array shaped | object shaped => simp [shape] at shaped
  · rintro ⟨text, found, long, rfl⟩
    exact .string shape found long

theorem denotes_integer (shape : schema.shape = .typed "integer") :
    Denotes conversions defs schema node value ↔
      ∃ text number, node.text? = some text ∧ conversions.asInt text = some number ∧
        (∀ least ∈ schema.minimum, least.value ≤ number) ∧ value = .integer number := by
  constructor
  · intro denotes
    cases denotes with
    | integer _ found converted least => exact ⟨_, _, found, converted, least, rfl⟩
    | reference shaped | constant shaped | choice shaped | string shaped | number shaped | boolean shaped
    | array shaped | object shaped => simp [shape] at shaped
  · rintro ⟨text, number, found, converted, least, rfl⟩
    exact .integer shape found converted least

theorem denotes_number (shape : schema.shape = .typed "number") :
    Denotes conversions defs schema node value ↔
      ∃ text number, node.text? = some text ∧ conversions.asDouble text = some number ∧
        (∀ least ∈ schema.minimum, conversions.less number (conversions.ofRat least.value) = false) ∧
        value = .number number := by
  constructor
  · intro denotes
    cases denotes with
    | number _ found converted least => exact ⟨_, _, found, converted, least, rfl⟩
    | reference shaped | constant shaped | choice shaped | string shaped | integer shaped | boolean shaped
    | array shaped | object shaped => simp [shape] at shaped
  · rintro ⟨text, number, found, converted, least, rfl⟩
    exact .number shape found converted least

theorem denotes_boolean (shape : schema.shape = .typed "boolean") :
    Denotes conversions defs schema node value ↔
      ∃ text truth, node.text? = some text ∧ conversions.asBool text = some truth ∧
        value = .boolean truth := by
  constructor
  · intro denotes
    cases denotes with
    | boolean _ found converted => exact ⟨_, _, found, converted, rfl⟩
    | reference shaped | constant shaped | choice shaped | string shaped | integer shaped | number shaped
    | array shaped | object shaped => simp [shape] at shaped
  · rintro ⟨text, truth, found, converted, rfl⟩
    exact .boolean shape found converted

theorem denotes_array {item : Schema} (shape : schema.shape = .typed "array") (listed : schema.items = some item) :
    Denotes conversions defs schema node value ↔
      ∃ entries values, node.entries? = some entries ∧ EntriesDenote conversions defs item entries values ∧
        value = .array values := by
  constructor
  · intro denotes
    cases denotes with
    | array _ items found inner =>
        cases listed.symm.trans items
        exact ⟨_, _, found, inner, rfl⟩
    | reference shaped | constant shaped | choice shaped | string shaped | integer shaped | number shaped
    | boolean shaped | object shaped => simp [shape] at shaped
  · rintro ⟨entries, values, found, inner, rfl⟩
    exact .array shape listed found inner

theorem denotes_object (shape : schema.shape = .typed "object") :
    Denotes conversions defs schema node value ↔
      ∃ pairs fields, node.pairs? = some pairs ∧
        (schema.additionalProperties = false → KnownKeys schema.properties pairs) ∧
        (∀ name ∈ schema.required, (Node.findPair pairs name).isSome = true) ∧
        FieldsDenote conversions defs schema.properties pairs fields ∧ value = .object fields := by
  constructor
  · intro denotes
    cases denotes with
    | object _ found known required inner => exact ⟨_, _, found, known, required, inner, rfl⟩
    | reference shaped | constant shaped | choice shaped | string shaped | integer shaped | number shaped
    | boolean shaped | array shaped => simp [shape] at shaped
  · rintro ⟨pairs, fields, found, known, required, inner, rfl⟩
    exact .object shape found known required inner

end Inversion

end RosPortal.Config
