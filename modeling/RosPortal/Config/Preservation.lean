import RosPortal.Config.Compilation

/-! A parser that is generated from a supported schema accepts the documents that the schema
admits, and reads each as the value that it stands for. -/

set_option autoImplicit false

namespace RosPortal.Config

section Heights

variable {node child : Node} {key : String}

theorem height_findPair {pairs : List (Node × Node)} (found : Node.findPair pairs key = some child) :
    child.height ≤ Node.heightOfPairs pairs := by
  induction pairs with
  | nil => cases found
  | cons pair pairs ih =>
      unfold Node.findPair at found ih
      rw [List.find?_cons] at found
      split at found
      · cases found
        exact Nat.le_max_left _ _
      · exact Nat.le_trans (ih found) (Nat.le_max_right _ _)

theorem height_pairs {pairs : List (Node × Node)} (map : node.pairs? = some pairs) :
    node.height = Node.heightOfPairs pairs + 1 := by
  cases node with
  | map _ _ =>
      cases map
      rfl
  | null _ | scalar _ _ | sequence _ _ => cases map

theorem height_entry {entries : List Node} {entry : Node} (member : entry ∈ entries) :
    entry.height ≤ Node.heightOfEntries entries := by
  induction entries with
  | nil => cases member
  | cons first entries ih =>
      rcases List.mem_cons.mp member with rfl | later
      · exact Nat.le_max_left _ _
      · exact Nat.le_trans (ih later) (Nat.le_max_right _ _)

theorem height_entries {entries : List Node} (sequence : node.entries? = some entries) :
    node.height = Node.heightOfEntries entries + 1 := by
  cases node with
  | sequence _ _ =>
      cases sequence
      rfl
  | null _ | scalar _ _ | map _ _ => cases sequence

end Heights

section Helpers

variable {Result : Type} {node : Node} {path expected detail : String}

@[simp] theorem fail_ne_ok {result : Result} : fail path node expected detail ≠ .ok result := nofun

@[simp] theorem failMissing_ne_ok {result : Result} : failMissing path expected ≠ .ok result := nofun

theorem scalarString_ok {text : String} : scalarString node path = .ok text ↔ node.text? = some text := by
  unfold scalarString
  cases node.text? <;> simp

theorem requireSequence_ok {entries : List Node} :
    requireSequence node path = .ok entries ↔ node.entries? = some entries := by
  unfold requireSequence
  cases node.entries? <;> simp

theorem rejectUnknownPairs_ok {allowed : List String} {pairs : List (Node × Node)} :
    rejectUnknownPairs allowed path pairs = .ok () ↔
      ∀ pair ∈ pairs, ∃ name ∈ allowed, pair.1.text? = some name := by
  induction pairs with
  | nil => simp [rejectUnknownPairs]
  | cons pair pairs ih =>
      obtain ⟨key, value⟩ := pair
      unfold rejectUnknownPairs mapKeyToString
      cases text : key.text? with
      | none => simp [text, fail, Except.bind]
      | some name =>
          simp only [Except.bind, List.contains_iff_mem]
          split_ifs with known
          · simp [ih, text, known]
          · simp [text, known]

theorem rejectUnknownFields_ok {allowed : List String} :
    rejectUnknownFields node allowed path = .ok () ↔ ∃ pairs, node.pairs? = some pairs ∧
      ∀ pair ∈ pairs, ∃ name ∈ allowed, pair.1.text? = some name := by
  unfold rejectUnknownFields requireMap
  cases node.pairs? with
  | none => simp [Except.bind, fail]
  | some pairs => simp [Except.bind, rejectUnknownPairs_ok]

end Helpers

section Scalars

variable {Double : Type} {conversions : Conversions Double} {node : Node} {path : String} {value : Value Double}

theorem parseConstString_ok {text : String} :
    (parseConstString text node path : Except Failure (Value Double)) = .ok value ↔
      node.text? = some text ∧ value = .string text := by
  unfold parseConstString
  rw [bind_eq_ok]
  constructor
  · intro holds
    obtain ⟨found, read, same⟩ := holds
    split_ifs at same with other
    · cases same
    · cases same
      rw [ne_eq, not_not] at other
      subst other
      exact ⟨scalarString_ok.mp read, rfl⟩
  · intro holds
    obtain ⟨found, rfl⟩ := holds
    exact ⟨text, scalarString_ok.mpr found, by simp⟩

theorem parseStringValue_ok {nonempty : Bool} :
    (parseStringValue node path nonempty : Except Failure (Value Double)) = .ok value ↔
      ∃ text, node.text? = some text ∧ (nonempty = true → text ≠ "") ∧ value = .string text := by
  unfold parseStringValue
  rw [bind_eq_ok]
  refine exists_congr fun text => ?_
  rw [scalarString_ok]
  refine and_congr_right fun _ => ?_
  cases nonempty with
  | false => simp [eq_comm]
  | true =>
      by_cases empty : text = ""
      · simp [empty]
      · simpa [empty] using eq_comm

theorem parseIntegerValue_ok {minimum : Option Int} {expected : String} :
    parseIntegerValue conversions node path minimum expected = .ok value ↔
      ∃ text number, node.text? = some text ∧ conversions.asInt text = some number ∧
        (∀ least ∈ minimum, least ≤ number) ∧ value = .integer number := by
  unfold parseIntegerValue
  cases found : node.text? with
  | none => simp
  | some text =>
      cases converted : conversions.asInt text with
      | none => simp [converted]
      | some number =>
          cases minimum with
          | none => simpa [converted] using eq_comm
          | some least =>
              by_cases below : number < least
              · simp [converted, below]
              · simpa [converted, below, Int.not_lt.mp below] using eq_comm

theorem parseNumberValue_ok {minimum : Option Double} {expected : String} :
    parseNumberValue conversions node path minimum expected = .ok value ↔
      ∃ text number, node.text? = some text ∧ conversions.asDouble text = some number ∧
        (∀ least ∈ minimum, conversions.less number least = false) ∧ value = .number number := by
  unfold parseNumberValue
  cases found : node.text? with
  | none => simp
  | some text =>
      cases converted : conversions.asDouble text with
      | none => simp [converted]
      | some number =>
          cases minimum with
          | none => simpa [converted] using eq_comm
          | some least =>
              cases below : conversions.less number least with
              | true => simp [converted, below]
              | false => simpa [converted, below] using eq_comm

theorem parseBooleanValue_ok :
    parseBooleanValue conversions node path = .ok value ↔
      ∃ text truth, node.text? = some text ∧ conversions.asBool text = some truth ∧
        value = .boolean truth := by
  unfold parseBooleanValue
  cases found : node.text? with
  | none => simp
  | some text =>
      cases converted : conversions.asBool text with
      | none => simp [converted]
      | some truth =>
          cases truth <;> simpa [converted] using eq_comm

theorem shortest_mem {enums : List (String × List String)} {enum : String × List String}
    (found : shortest enums = some enum) : enum ∈ enums := by
  induction enums generalizing enum with
  | nil => cases found
  | cons first rest ih =>
      unfold shortest at found
      split at found
      · cases found
        exact List.mem_cons_self
      next other known =>
        split_ifs at found
        · cases found
          exact List.mem_cons_of_mem _ (ih known)
        · cases found
          exact List.mem_cons_self

theorem subset_enumCanonical {enums : List (String × List String)} {name text : String} {values : List String}
    (member : text ∈ values) : text ∈ (enumCanonical enums name values).2 := by
  unfold enumCanonical
  cases found : shortest (enums.filter fun candidate =>
      candidate.1 ≠ name && strictSubset values candidate.2) with
  | none => exact member
  | some enum =>
      obtain ⟨_, larger⟩ := List.mem_filter.mp (shortest_mem found)
      simp only [strictSubset, Bool.and_eq_true, List.all_eq_true, List.contains_iff_mem] at larger
      exact larger.2.1 text member

theorem parseEnumValue_ok {canonical allowed : List String}
    (subset : ∀ text ∈ allowed, text ∈ canonical) :
    (parseEnumValue canonical allowed node path : Except Failure (Value Double)) = .ok value ↔
      ∃ text, node.text? = some text ∧ text ∈ allowed ∧ value = .enum text := by
  unfold parseEnumValue
  rw [bind_eq_ok]
  refine exists_congr fun text => ?_
  rw [scalarString_ok]
  refine and_congr_right fun _ => ?_
  by_cases member : text ∈ allowed
  · simpa [member, subset text member] using eq_comm
  · simp [member]

end Scalars

section Written

variable {Double : Type} {conversions : Conversions Double} {defs : List (String × Schema)} {schema : Schema}
  {number : Number}

/-- An integer that fits is written out, and held, as it is. -/
theorem intLiteral_of_fits (fits : number.fitsInt = true) :
    number.value.den = 1 ∧ intLiteral number.toInt = number.value.num := by
  simp only [Number.fitsInt, Bool.and_eq_true, decide_eq_true_eq] at fits
  obtain ⟨⟨whole, low⟩, high⟩ := fits
  have same := (Rat.den_eq_one_iff number.value).mp whole
  rw [← same] at low high
  have low : -2147483648 ≤ number.value.num := by exact_mod_cast low
  have high : number.value.num ≤ 2147483647 := by exact_mod_cast high
  have written : number.toInt = number.value.num := by
    cases number with
    | int value => rfl
    | float value =>
        have few : |(value.num : ℤ)| < ((2 ^ 53 : ℕ) : ℤ) := by
          rw [abs_lt]
          simp only [Number.value] at low high
          constructor <;> omega
        have exact : Digits.significant 2 53 value = value := by
          have rounded := Digits.significant_intCast (by decide : 1 < 2) few
          rwa [show (value.num : ℚ) = value from same] at rounded
        simp only [Number.toInt, Number.toFloat, Number.value, exact]
        rw [show value.den = 1 from whole]
        exact Int.tdiv_one _
  refine ⟨whole, ?_⟩
  rw [written, intLiteral]
  exact Int.bmod_eq_of_le (by omega) (by omega)

/-- Six digits are written out as they are. -/
theorem general_of_short (short : number.short = true) : number.general = number.value := by
  simp only [Number.short, Bool.and_eq_true, decide_eq_true_eq] at short
  exact Digits.significant_of_finer (by decide) (by decide) (by decide) (by decide) short.2

example : (Number.int 1234567).general = 1234570 := by decide +kernel

theorem integerMinimum_iff (type : schema.type = some "integer") (exact : schema.exactMinimum = true) (value : Int) :
    (∀ least ∈ (schema.minimum.map Number.toInt).map intLiteral, least ≤ value) ↔
      ∀ least ∈ schema.minimum, least.value ≤ value := by
  simp only [Schema.exactMinimum, type] at exact
  cases given : schema.minimum with
  | none => simp
  | some least =>
      rw [given] at exact
      obtain ⟨whole, held⟩ := intLiteral_of_fits exact
      have same := (Rat.den_eq_one_iff least.value).mp whole
      simp only [Option.map_some, Option.mem_def, Option.some.injEq, forall_eq', held]
      rw [← same]
      simp

theorem numberMinimum_iff (type : schema.type = some "number") (exact : schema.exactMinimum = true) (value : Double) :
    (∀ least ∈ (schema.minimum.map Number.general).map conversions.ofRat, conversions.less value least = false) ↔
      ∀ least ∈ schema.minimum, conversions.less value (conversions.ofRat least.value) = false := by
  simp only [Schema.exactMinimum, type] at exact
  cases given : schema.minimum with
  | none => simp
  | some least =>
      rw [given] at exact
      simp [general_of_short exact]

/-- The minima of a schema and of its entries are written out as they are. -/
def Schema.ExactMinima (schema : Schema) : Prop :=
  schema.exactMinimum = true ∧
    (schema.ref = none → schema.type = some "array" → ∀ item ∈ schema.items, item.exactMinimum = true)

theorem exactMinima_of_property (exact : schema.exactProperty defs = true) : schema.ExactMinima := by
  simp only [Schema.exactProperty, Bool.and_eq_true, Option.all_eq_true] at exact
  exact ⟨exact.1.1.1, fun _ _ => exact.1.2⟩

theorem exactDefault_of_property (exact : schema.exactProperty defs = true) : schema.exactDefault defs = true := by
  simp only [Schema.exactProperty, Bool.and_eq_true] at exact
  exact exact.1.1.2

theorem exactProperty_of_object (exact : schema.exactObject defs = true) :
    ∀ property ∈ schema.properties, property.2.exactProperty defs = true := by
  simp only [Schema.exactObject, List.all_eq_true, Bool.and_eq_true] at exact
  exact fun property listed => (exact property listed).2

theorem exactMinima_of_entry {info : TypeInfo} (compiled : Compiled defs schema info)
    (notArray : ∀ inner, info ≠ .array inner) (exact : schema.exactMinimum = true) : schema.ExactMinima := by
  refine ⟨exact, fun plain type => ?_⟩
  cases compiled with
  | constant _ _ other => exact absurd type other
  | string _ _ other | integer _ _ other | number _ _ other | boolean _ _ other => simp [type] at other
  | array => exact absurd rfl (notArray _)
  | enum found | object found | named found => simp [plain] at found

theorem mem_of_lookup {name : String} (looked : defs.lookup name = some schema) : (name, schema) ∈ defs := by
  obtain ⟨before, after, split, _⟩ := List.lookup_eq_some_iff.mp looked
  simp [split]

theorem exactMinimum_of_lookup (exact : ∀ definition ∈ defs, definition.2.exactDefinition defs = true)
    {name : String} (looked : defs.lookup name = some schema) : schema.exactMinimum = true := by
  have one := exact _ (mem_of_lookup looked)
  simp only [Schema.exactDefinition, Bool.and_eq_true] at one
  exact one.1.1

theorem exactObject_of_lookup (exact : ∀ definition ∈ defs, definition.2.exactDefinition defs = true)
    {name : String} (looked : defs.lookup name = some schema) : schema.exactObject defs = true := by
  have one := exact _ (mem_of_lookup looked)
  simp only [Schema.exactDefinition, Bool.and_eq_true] at one
  exact one.2

theorem schemaLiteral_integer (other : schema.type ≠ some "number") (fits : number.fitsInt = true) :
    schemaLiteral conversions schema (.number number) = some (.integer (intLiteral number.toInt)) := by
  obtain ⟨whole, held⟩ := intLiteral_of_fits fits
  simp [schemaLiteral, other, whole, held]

end Written

section Compounds

variable {Double : Type} {conversions : Conversions Double} {defs : List (String × Schema)}
  {enums : List (String × List String)}

theorem parseEntries_ok {item : Schema} {parse : Node → String → Except Failure (Value Double)} {path : String}
    {entries : List Node} {index : Nat} {values : List (Value Double)}
    (each : ∀ entry ∈ entries, ∀ (path : String) (value : Value Double),
      parse entry path = .ok value ↔ Denotes conversions defs item entry value) :
    parseEntries parse path index entries = .ok values ↔ EntriesDenote conversions defs item entries values := by
  induction entries generalizing index values with
  | nil =>
      simp only [parseEntries, Except.ok.injEq]
      constructor
      · rintro rfl
        exact .nil
      · intro denote
        cases denote
        rfl
  | cons entry entries ih =>
      have first := each entry List.mem_cons_self
      have rest : ∀ index values, parseEntries parse path index entries = .ok values ↔
          EntriesDenote conversions defs item entries values := fun index values => ih
        fun other member => each other (List.mem_cons_of_mem _ member)
      simp only [parseEntries, bind_eq_ok, map_eq_ok, first, rest]
      constructor
      · intro holds
        obtain ⟨value, denotes, values, others, rfl⟩ := holds
        exact .cons denotes others
      · intro denote
        cases denote with
        | cons denotes others => exact ⟨_, denotes, _, others, rfl⟩

/-- The literal of a default means the same to the generator and to the schema. -/
theorem literalValue_eq (conversions : Conversions Double) {schema : Schema} {info : TypeInfo} (compiled : Compiled defs schema info) :
    ∃ depth resolved, resolveType defs depth schema = .ok resolved ∧ schema.scalarType defs = resolved.type ∧
      (resolved.type = some "array" ↔ ∃ inner, info = .array inner) ∧
      ∀ literal, (∀ number, literal = .number number → resolved.type ≠ some "number" → number.fitsInt = true) →
        literalValue conversions info literal = schemaLiteral conversions resolved literal := by
  induction compiled with
  | constant _ notNumber notArray any plain =>
      refine ⟨0, _, resolveType_plain 0 plain, by simp [Schema.scalarType, plain], by simp [notArray],
        fun literal fits => ?_⟩
      cases literal with
      | number number => exact (schemaLiteral_integer notNumber (fits number rfl notNumber)).symm
      | string _ | boolean _ | other => simp [literalValue, schemaLiteral, any]
  | number _ plain type any =>
      refine ⟨0, _, resolveType_plain 0 plain, by simp [Schema.scalarType, plain], by simp [type],
        fun literal _ => ?_⟩
      cases literal <;> simp [literalValue, schemaLiteral, type, any]
  | string _ plain type any | integer _ plain type any | boolean _ plain type any | array _ plain type any =>
      refine ⟨0, _, resolveType_plain 0 plain, by simp [Schema.scalarType, plain], by simp [type],
        fun literal fits => ?_⟩
      cases literal with
      | number number =>
          exact (schemaLiteral_integer (by simp [type]) (fits number rfl (by simp [type]))).symm
      | string _ | boolean _ | other => simp [literalValue, schemaLiteral, any]
  | enum found named looked _ plain any notNumber notArray =>
      have resolved := resolveRef_ok.mpr ⟨_, named, looked⟩
      refine ⟨1, _, resolveType_reference found resolved plain, by simp [Schema.scalarType, found, resolved],
        by simp [notArray], fun literal fits => ?_⟩
      cases literal with
      | number number => exact (schemaLiteral_integer notNumber (fits number rfl notNumber)).symm
      | string _ | boolean _ | other => simp [literalValue, schemaLiteral, any]
  | object found named looked plain any type =>
      have resolved := resolveRef_ok.mpr ⟨_, named, looked⟩
      refine ⟨1, _, resolveType_reference found resolved plain, by simp [Schema.scalarType, found, resolved],
        by simp [type], fun literal fits => ?_⟩
      cases literal with
      | number number =>
          exact (schemaLiteral_integer (by simp [type]) (fits number rfl (by simp [type]))).symm
      | string _ | boolean _ | other => simp [literalValue, schemaLiteral, any]
  | named found resolved plain _ _ _ ih =>
      obtain ⟨depth, same, resolves, _, array, literals⟩ := ih
      cases (resolveType_plain depth plain).symm.trans resolves
      exact ⟨1, _, resolveType_reference found resolved plain, by simp [Schema.scalarType, found, resolved], array,
        literals⟩

theorem memberDefault_eq_none {field : FieldSpec} {root : Bool} (given : field.default = none)
    (notArray : ∀ inner, field.typeInfo ≠ .array inner)
    (inPlace : root = true → ∀ name, field.typeInfo ≠ .object name) :
    memberDefault conversions root field = none := by
  unfold memberDefault
  rw [given]
  cases type : field.typeInfo with
  | array inner => exact absurd type (notArray inner)
  | object name =>
      cases root with
      | true => exact absurd type (inPlace rfl name)
      | false => rfl
  | constString _ | string _ | integer _ | number _ | boolean | enum _ => rfl

/-- A member that is not read stands for an absent property. -/
theorem memberDefault_absent {property : String × Schema} {field : FieldSpec} {required : List String} {root : Bool}
    {value : Option (Value Double)} (compiled : FieldCompiled defs required property field)
    (exact : property.2.exactDefault defs = true) (inPlace : root = true → ∀ name, field.typeInfo ≠ .object name) :
    Absent conversions defs property.2 value ↔ value = memberDefault conversions root field := by
  obtain ⟨depth, resolved, resolves, scalar, array, literals⟩ := literalValue_eq conversions compiled.type
  cases given : property.2.default with
  | some literal =>
      unfold memberDefault
      rw [compiled.default, given]
      have fits : ∀ number, literal = .number number → resolved.type ≠ some "number" → number.fitsInt = true := by
        rintro number rfl other
        simpa [Schema.exactDefault, given, scalar, other] using exact
      simp only [literals literal fits]
      constructor
      · intro absent
        cases absent with
        | literal same resolves' =>
            cases given.symm.trans same
            rw [resolveType_unique resolves' resolves]
        | array none | nothing none => simp [given] at none
      · rintro rfl
        exact .literal given resolves
  | none =>
      by_cases isArray : ∃ inner, field.typeInfo = .array inner
      · have type := array.mpr isArray
        obtain ⟨inner, listed⟩ := isArray
        unfold memberDefault
        rw [compiled.default, given, listed]
        constructor
        · intro absent
          cases absent with
          | literal same => simp [given] at same
          | array => rfl
          | nothing _ resolves' notArray =>
              rw [resolveType_unique resolves' resolves] at notArray
              exact absurd type notArray
        · rintro rfl
          exact .array given resolves type
      · have type := mt array.mp isArray
        rw [memberDefault_eq_none (compiled.default.trans given) (fun inner listed => isArray ⟨inner, listed⟩) inPlace]
        constructor
        · intro absent
          cases absent with
          | literal same => simp [given] at same
          | array _ resolves' isArray' =>
              rw [resolveType_unique resolves' resolves] at isArray'
              exact absurd isArray' type
          | nothing => rfl
        · rintro rfl
          exact .nothing given resolves type

theorem parseField_ok {parse : ParseValue Double} {root : Bool} {node : Node} {pairs : List (Node × Node)}
    {path : String} {property : String × Schema} {field : FieldSpec} {required : List String}
    {result : String × Option (Value Double)} (map : node.pairs? = some pairs)
    (compiled : FieldCompiled defs required property field) (exact : property.2.exactDefault defs = true)
    (inPlace : root = true → field.required = false → ∀ name, field.typeInfo ≠ .object name)
    (child : ∀ child, Node.findPair pairs property.1 = some child → ∀ (path : String) (value : Value Double),
      parse field.typeInfo child path = .ok value ↔ Denotes conversions defs property.2 child value) :
    parseField conversions enums parse root node path field = .ok result ↔
      (∃ child value, Node.findPair pairs property.1 = some child ∧
        Denotes conversions defs property.2 child value ∧ result = (property.1, some value)) ∨
      ∃ value, Node.findPair pairs property.1 = none ∧ required.contains property.1 = false ∧
        Absent conversions defs property.2 value ∧ result = (property.1, value) := by
  have find : node.find field.yamlName = Node.findPair pairs property.1 := by
    simp only [Node.find, map, Option.bind_some, compiled.name]
  unfold parseField
  rw [map_eq_ok, find, compiled.name]
  cases found : Node.findPair pairs property.1 with
  | none =>
      have rule : ∀ (_ : field.required = false) (value : Option (Value Double)),
          Absent conversions defs property.2 value ↔ value = memberDefault conversions root field :=
        fun optional value => memberDefault_absent compiled exact fun rooted => inPlace rooted optional
      rw [compiled.required] at rule ⊢
      cases needed : required.contains property.1 with
      | true => simp
      | false =>
          simp only [Bool.false_eq_true, if_false, Except.ok.injEq, exists_eq_left', reduceCtorEq, false_and,
            exists_false, false_or, true_and]
          constructor
          · rintro rfl
            exact ⟨_, (rule needed _).mpr rfl, rfl⟩
          · intro holds
            obtain ⟨value, absent, rfl⟩ := holds
            rw [(rule needed value).mp absent]
  | some inner =>
      have read : readField conversions parse root field inner (fieldPath path property.1) =
          (parse field.typeInfo inner (fieldPath path property.1)).map some := by
        unfold readField
        cases needed : field.required with
        | true => rfl
        | false =>
            cases type : field.typeInfo with
            | constString text =>
                have constant := compiled.constant text type
                rw [needed] at constant
                cases constant
            | string _ | integer _ | number _ | boolean | enum _ | object _ | array _ => rfl
      simp only [read, map_eq_ok, child inner found, reduceCtorEq, false_and, exists_false, or_false,
        Option.some.injEq, exists_exists_and_eq_and]
      constructor
      · intro holds
        obtain ⟨value, denotes, rfl⟩ := holds
        exact ⟨inner, value, rfl, denotes, rfl⟩
      · intro holds
        obtain ⟨_, value, rfl, denotes, rfl⟩ := holds
        exact ⟨value, denotes, rfl⟩

theorem parseFields_ok {parse : ParseValue Double} {root : Bool} {node : Node} {pairs : List (Node × Node)}
    {path : String} {properties : List (String × Schema)} {fields : List FieldSpec} {required : List String}
    {results : List (String × Option (Value Double))} (map : node.pairs? = some pairs)
    (compiled : List.Forall₂ (FieldCompiled defs required) properties fields)
    (exact : ∀ property ∈ properties, property.2.exactProperty defs = true)
    (inPlace : root = true → ∀ field ∈ fields, field.required = false → ∀ name, field.typeInfo ≠ .object name)
    (children : ∀ (property : String × Schema) (field : FieldSpec), property ∈ properties → field ∈ fields →
      FieldCompiled defs required property field → ∀ child, Node.findPair pairs property.1 = some child →
        ∀ (path : String) (value : Value Double),
          parse field.typeInfo child path = .ok value ↔ Denotes conversions defs property.2 child value) :
    fields.mapM (parseField conversions enums parse root node path) = .ok results ↔
      FieldsDenote conversions defs properties pairs results ∧
        ∀ property ∈ properties, required.contains property.1 = true →
          (Node.findPair pairs property.1).isSome = true := by
  rw [mapM_eq_ok]
  induction compiled generalizing results with
  | nil =>
      constructor
      · intro all
        cases all
        exact ⟨.nil, nofun⟩
      · intro holds
        obtain ⟨denote, _⟩ := holds
        cases denote
        exact .nil
  | @cons property field properties fields one rest ih =>
      have first : ∀ result, parseField conversions enums parse root node path field = .ok result ↔ _ :=
        fun result => parseField_ok map one (exactDefault_of_property (exact property List.mem_cons_self))
          (fun rooted => inPlace rooted field List.mem_cons_self)
          (children property field List.mem_cons_self List.mem_cons_self one)
      have later : ∀ results, List.Forall₂
          (fun field result => parseField conversions enums parse root node path field = .ok result) fields results ↔
            _ := fun results => ih (fun other member => exact other (List.mem_cons_of_mem _ member))
        (fun rooted other member => inPlace rooted other (List.mem_cons_of_mem _ member))
        fun property other listed member => children property other (List.mem_cons_of_mem _ listed)
          (List.mem_cons_of_mem _ member)
      obtain ⟨name, schema⟩ := property
      constructor
      · intro all
        cases all with
        | @cons _ result _ results here others =>
            obtain ⟨denote, needed⟩ := (later _).mp others
            rcases (first result).mp here with ⟨child, value, found, denotes, rfl⟩ | ⟨value, missing, optional, absent, rfl⟩
            · refine ⟨.present found denotes denote, ?_⟩
              intro other member listed
              rcases List.mem_cons.mp member with rfl | member
              · simp [found]
              · exact needed other member listed
            · refine ⟨.absent missing absent denote, ?_⟩
              intro other member listed
              rcases List.mem_cons.mp member with rfl | member
              · simp only [optional, Bool.false_eq_true] at listed
              · exact needed other member listed
      · intro holds
        obtain ⟨denote, needed⟩ := holds
        have behind := fun other member => needed other (List.mem_cons_of_mem _ member)
        cases denote with
        | present found denotes rest =>
            exact .cons ((first _).mpr (.inl ⟨_, _, found, denotes, rfl⟩)) ((later _).mpr ⟨rest, behind⟩)
        | absent missing absent rest =>
            have optional : required.contains name = false := by
              by_contra listed
              rw [Bool.not_eq_false] at listed
              have present := needed (name, schema) List.mem_cons_self listed
              simp [missing] at present
            exact .cons ((first _).mpr (.inr ⟨_, missing, optional, absent, rfl⟩)) ((later _).mpr ⟨rest, behind⟩)

/-- The function of an object reads it as its schema says, if those that it calls do. -/
theorem parseObject_ok {parse : ParseValue Double} {root : Bool} {spec : ObjectSpec} {schema : Schema} {node : Node}
    {path : String} {value : Value Double} (compiled : ObjectCompiled defs schema spec)
    (exact : schema.exactObject defs = true)
    (inPlace : root = true → ∀ field ∈ spec.fields, field.required = false →
      ∀ name, field.typeInfo ≠ .object name)
    (children : ∀ (property : Schema) (field : FieldSpec) (child : Node), field ∈ spec.fields →
      Compiled defs property field.typeInfo → property.ExactMinima → child.height < node.height →
        ∀ (path : String) (value : Value Double),
          parse field.typeInfo child path = .ok value ↔ Denotes conversions defs property child value) :
    parseObject conversions enums parse root spec node path = .ok value ↔
      Denotes conversions defs schema node value := by
  have properties := exactProperty_of_object exact
  unfold parseObject
  rw [bind_eq_ok, denotes_object compiled.shape, compiled.names]
  constructor
  · rintro ⟨⟨⟩, known, read⟩
    obtain ⟨pairs, map, keys⟩ := rejectUnknownFields_ok.mp known
    obtain ⟨fields, parsed, rfl⟩ := map_eq_ok.mp read
    obtain ⟨denote, needed⟩ := (parseFields_ok map compiled.fields properties inPlace (by
      intro property field listed member one child found
      refine children property.2 field child member one.type (exactMinima_of_property (properties _ listed)) ?_
      rw [height_pairs map]
      exact Nat.lt_succ_of_le (height_findPair found))).mp parsed
    refine ⟨pairs, fields, map, fun _ => keys, ?_, denote, rfl⟩
    intro name listed
    obtain ⟨property, member, rfl⟩ := List.mem_map.mp (compiled.required name listed)
    exact needed property member (List.contains_iff_mem.mpr listed)
  · intro holds
    obtain ⟨pairs, fields, map, keys, needed, denote, rfl⟩ := holds
    refine ⟨(), rejectUnknownFields_ok.mpr ⟨pairs, map, keys compiled.closed⟩, map_eq_ok.mpr ⟨fields, ?_, rfl⟩⟩
    refine (parseFields_ok map compiled.fields properties inPlace ?_).mpr ⟨denote, ?_⟩
    · intro property field listed member one child found
      refine children property.2 field child member one.type (exactMinima_of_property (properties _ listed)) ?_
      rw [height_pairs map]
      exact Nat.lt_succ_of_le (height_findPair found)
    · intro property member listed
      exact needed property.1 (List.contains_iff_mem.mp listed)

end Compounds

section Preservation

variable {Double : Type} {conversions : Conversions Double} {document : Document} {model : SchemaModel}

theorem exact_spec (exact : document.exact = true) :
    (∀ definition ∈ document.defs, definition.2.exactDefinition document.defs = true) ∧
      ∀ property, configProperties document = [property] → property.2.exactObject document.defs = true := by
  simp only [Document.exact, Bool.and_eq_true, List.all_eq_true] at exact
  refine ⟨exact.1.2, fun property single => exact.2 property ?_⟩
  rw [single]
  exact List.mem_cons_self

/-- The call that is generated for a type reads what its schema denotes. -/
theorem parseValue_ok (distinct : (document.defs.map Prod.fst).Nodup)
    (exact : ∀ definition ∈ document.defs, definition.2.exactDefinition document.defs = true) {fuel : Nat} {declared : List ObjectSpec}
    {schema : Schema} {info : TypeInfo} {node : Node} {path : String} {value : Value Double}
    (compiled : Compiled document.defs schema info) (minima : schema.ExactMinima)
    (closed : Closed document.defs declared) (covers : Covers declared info) (enough : node.height < fuel) :
    parseValue conversions (collectEnumDefs document.defs) fuel declared info node path = .ok value ↔
      Denotes conversions document.defs schema node value := by
  induction fuel generalizing declared schema info node path value with
  | zero => cases enough
  | succ fuel ih =>
      induction compiled with
      | constant shape =>
          rw [denotes_constant shape]
          exact parseConstString_ok
      | @string schema shape _ _ _ short =>
          rw [denotes_string shape]
          refine parseStringValue_ok.trans (exists_congr fun text => and_congr_right fun _ => and_congr_left fun _ => ?_)
          rw [decide_eq_true_eq, ne_eq, ← String.length_eq_zero_iff]
          omega
      | integer shape _ type =>
          rw [denotes_integer shape]
          simp only [← integerMinimum_iff type minima.1]
          exact parseIntegerValue_ok
      | number shape _ type =>
          rw [denotes_number shape]
          simp only [← numberMinimum_iff type minima.1]
          exact parseNumberValue_ok
      | boolean shape =>
          rw [denotes_boolean shape]
          exact parseBooleanValue_ok
      | enum found named looked shape plain any =>
          rw [denotes_reference (shape_reference found) (resolveRef_ok.mpr ⟨_, named, looked⟩), denotes_choice shape]
          unfold parseValue
          simp only [lookup_collectEnumDefs distinct looked, any]
          exact parseEnumValue_ok fun text member => subset_enumCanonical member
      | object found named looked plain any type =>
          obtain ⟨spec, visible, definition, entered, looked', object, visibleCovers, visibleClosed⟩ :=
            enterFunction_spec closed (covers _ rfl)
          cases looked.symm.trans looked'
          rw [denotes_reference (shape_reference found) (resolveRef_ok.mpr ⟨_, named, looked⟩)]
          unfold parseValue
          simp only [entered]
          refine parseObject_ok object (exactObject_of_lookup exact looked) nofun ?_
          intro property field child member inner minima shorter path value
          exact ih inner minima visibleClosed (visibleCovers field member) (by omega)
      | @array schema item info shape plain type any listed inner notArray notConstant _ =>
          rw [denotes_array shape listed]
          unfold parseValue parseSequence
          simp only [bind_eq_ok, map_eq_ok, requireSequence_ok]
          have innerCovers : Covers declared info := by
            intro name depends
            cases info with
            | object other => exact covers name depends
            | array other => exact absurd rfl (notArray other)
            | constString _ | string _ | integer _ | number _ | boolean | enum _ => cases depends
          have each : ∀ entries, node.entries? = some entries → ∀ values,
              parseEntries (parseValue conversions (collectEnumDefs document.defs) fuel declared info) path 0 entries =
                .ok values ↔ EntriesDenote conversions document.defs item entries values := by
            intro entries found values
            refine parseEntries_ok fun entry member path value =>
              ih inner (exactMinima_of_entry inner notArray (minima.2 plain type item listed)) closed innerCovers ?_
            have shorter := height_entry member
            have taller := height_entries found
            omega
          have assigned : ∀ entries,
              readEntries (parseValue conversions (collectEnumDefs document.defs) fuel declared) info path entries =
                parseEntries (parseValue conversions (collectEnumDefs document.defs) fuel declared info) path 0
                  entries := by
            intro entries
            cases info with
            | array other => exact absurd rfl (notArray other)
            | constString text => exact absurd rfl (notConstant text)
            | string _ | integer _ | number _ | boolean | enum _ | object _ => rfl
          simp only [assigned]
          refine exists_congr fun entries => ?_
          constructor
          · intro holds
            obtain ⟨found, values, parsed, rfl⟩ := holds
            exact ⟨values, found, (each entries found values).mp parsed, rfl⟩
          · intro holds
            obtain ⟨values, found, denote, rfl⟩ := holds
            exact ⟨found, values, (each entries found values).mpr denote, rfl⟩
      | named found resolved _ compiled notArray _ inner =>
          rw [denotes_reference (shape_reference found) resolved]
          obtain ⟨_, _, looked⟩ := resolveRef_ok.mp resolved
          exact inner (exactMinima_of_entry compiled notArray (exactMinimum_of_lookup exact looked)) covers

end Preservation

end RosPortal.Config
