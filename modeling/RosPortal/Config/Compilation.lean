import Mathlib.Data.List.Forall2
import RosPortal.Config.Meaning

/-! What the generator makes of a supported schema: the type of every property and the spec of
every object agree with the schema, and every function that one of them calls is in its scope. -/

set_option autoImplicit false

namespace RosPortal.Config

section Outcomes

variable {Problem α β : Type}

theorem bind_eq_ok {first : Except Problem α} {next : α → Except Problem β} {result : β} :
    first.bind next = .ok result ↔ ∃ value, first = .ok value ∧ next value = .ok result := by
  cases first <;> simp [Except.bind]

theorem map_eq_ok {first : Except Problem α} {function : α → β} {result : β} :
    first.map function = .ok result ↔ ∃ value, first = .ok value ∧ function value = result := by
  cases first <;> simp [Except.map]

theorem mapM_eq_ok {function : α → Except Problem β} {inputs : List α} {results : List β} :
    inputs.mapM function = .ok results ↔
      List.Forall₂ (fun input result => function input = .ok result) inputs results := by
  induction inputs generalizing results with
  | nil => simp [List.mapM_nil, pure, Except.pure, eq_comm]
  | cons input inputs ih =>
      rw [List.mapM_cons]
      simp only [bind, pure, Except.pure, bind_eq_ok, ih, Except.ok.injEq]
      constructor
      · rintro ⟨result, first, rest, later, rfl⟩
        exact .cons first later
      · intro all
        cases all with
        | cons first later => exact ⟨_, first, _, later, rfl⟩

theorem exists_of_mem_left {related : α → β → Prop} {inputs : List α} {results : List β}
    (all : List.Forall₂ related inputs results) {input : α} (member : input ∈ inputs) :
    ∃ result ∈ results, related input result := by
  induction all with
  | nil => cases member
  | cons first _ ih =>
      rcases List.mem_cons.mp member with rfl | later
      · exact ⟨_, List.mem_cons_self, first⟩
      · obtain ⟨result, found, holds⟩ := ih later
        exact ⟨result, List.mem_cons_of_mem _ found, holds⟩

theorem exists_of_mem_right {related : α → β → Prop} {inputs : List α} {results : List β}
    (all : List.Forall₂ related inputs results) {result : β} (member : result ∈ results) :
    ∃ input ∈ inputs, related input result := by
  induction all with
  | nil => cases member
  | cons first _ ih =>
      rcases List.mem_cons.mp member with rfl | later
      · exact ⟨_, List.mem_cons_self, first⟩
      · obtain ⟨input, found, holds⟩ := ih later
        exact ⟨input, List.mem_cons_of_mem _ found, holds⟩

end Outcomes

section Shapes

variable {schema : Schema}

theorem shape_reference {ref : String} (found : schema.ref = some ref) : schema.shape = .reference ref := by
  unfold Schema.shape
  rw [found]

theorem shape_constant {value : String} (plain : schema.ref = none) (found : schema.const = some (.string value)) :
    schema.shape = .constant value := by
  unfold Schema.shape
  rw [plain, found]

theorem shape_choice {values : List String} (plain : schema.ref = none) (free : schema.const = none)
    (found : schema.enum = some values) : schema.shape = .choice values := by
  unfold Schema.shape
  rw [plain, free, found]

theorem shape_typed {type : String} (plain : schema.ref = none) (free : schema.const = none)
    (open' : schema.enum = none) (found : schema.type = some type) : schema.shape = .typed type := by
  unfold Schema.shape
  rw [plain, free, open', found]

end Shapes

section Resolution

variable {defs : List (String × Schema)}

theorem resolveRef_ok {ref : String} {definition : Schema} :
    resolveRef defs ref = .ok definition ↔ ∃ name, refName ref = .ok name ∧ defs.lookup name = some definition := by
  unfold resolveRef
  rw [bind_eq_ok]
  refine exists_congr fun name => and_congr_right fun _ => ?_
  cases defs.lookup name <;> simp

theorem resolveType_plain {schema : Schema} (depth : Nat) (plain : schema.ref = none) :
    resolveType defs depth schema = .ok schema := by
  unfold resolveType
  rw [plain]

theorem resolveType_reference {schema definition : Schema} {ref : String} {depth : Nat}
    (found : schema.ref = some ref) (resolved : resolveRef defs ref = .ok definition)
    (plain : definition.ref = none) : resolveType defs (depth + 1) schema = .ok definition := by
  unfold resolveType
  rw [found]
  exact bind_eq_ok.mpr ⟨definition, resolved, resolveType_plain depth plain⟩

/-- The depth does not matter where it is enough. -/
theorem resolveType_unique {schema first second : Schema} {depth other : Nat}
    (one : resolveType defs depth schema = .ok first) (two : resolveType defs other schema = .ok second) :
    first = second := by
  induction depth generalizing schema other with
  | zero =>
      unfold resolveType at one two
      cases found : schema.ref with
      | none =>
          rw [found] at one two
          cases one
          cases two
          rfl
      | some ref => simp [found] at one
  | succ depth ih =>
      unfold resolveType at one two
      cases found : schema.ref with
      | none =>
          rw [found] at one two
          cases one
          cases two
          rfl
      | some ref =>
          cases other with
          | zero => simp [found] at two
          | succ other =>
              simp only [found] at one two
              obtain ⟨definition, resolved, rest⟩ := bind_eq_ok.mp one
              obtain ⟨same, resolved', rest'⟩ := bind_eq_ok.mp two
              cases resolved.symm.trans resolved'
              exact ih rest rest'

theorem lookup_collectEnumDefs (distinct : (defs.map Prod.fst).Nodup) {name : String} {definition : Schema}
    (found : defs.lookup name = some definition) : (collectEnumDefs defs).lookup name = definition.enum := by
  induction defs with
  | nil => cases found
  | cons first rest ih =>
      obtain ⟨firstName, firstSchema⟩ := first
      rw [List.map_cons, List.nodup_cons] at distinct
      rw [List.lookup_cons] at found
      by_cases same : name = firstName
      · subst same
        simp only [beq_self_eq_true, Option.some.injEq] at found
        subst found
        unfold collectEnumDefs
        cases values : firstSchema.enum with
        | some values => simp [values]
        | none =>
            simp only [List.filterMap_cons, values, Option.map_none]
            rw [List.lookup_eq_none_iff]
            rintro ⟨other, others⟩ member
            obtain ⟨⟨origin, schema⟩, listed, mapped⟩ := List.mem_filterMap.mp member
            obtain ⟨_, _, pair⟩ := Option.map_eq_some_iff.mp mapped
            cases pair
            have apart : origin ≠ name := by
              rintro rfl
              exact distinct.1 (List.mem_map.mpr ⟨_, listed, rfl⟩)
            simpa using apart.symm
      · rw [beq_eq_false_iff_ne.mpr same] at found
        have later := ih distinct.2 found
        unfold collectEnumDefs at later ⊢
        cases values : firstSchema.enum with
        | none => simpa [values] using later
        | some values => simpa [values, List.lookup_cons, beq_eq_false_iff_ne.mpr same] using later

end Resolution

/-- The type of a property is read as its schema says. -/
inductive Compiled (defs : List (String × Schema)) : Schema → TypeInfo → Prop where
  | constant {schema : Schema} {value : String} :
      schema.shape = .constant value → schema.type ≠ some "number" → schema.type ≠ some "array" →
      schema.enum = none → schema.ref = none → Compiled defs schema (.constString value)
  | string {schema : Schema} :
      schema.shape = .typed "string" → schema.ref = none → schema.type = some "string" → schema.enum = none →
      schema.minLength ≤ 1 → Compiled defs schema (.string (0 < schema.minLength))
  | integer {schema : Schema} :
      schema.shape = .typed "integer" → schema.ref = none → schema.type = some "integer" → schema.enum = none →
      Compiled defs schema (.integer (schema.minimum.map Number.toInt))
  | number {schema : Schema} :
      schema.shape = .typed "number" → schema.ref = none → schema.type = some "number" → schema.enum = none →
      Compiled defs schema (.number (schema.minimum.map Number.general))
  | boolean {schema : Schema} :
      schema.shape = .typed "boolean" → schema.ref = none → schema.type = some "boolean" → schema.enum = none →
      Compiled defs schema .boolean
  | array {schema item : Schema} {info : TypeInfo} :
      schema.shape = .typed "array" → schema.ref = none → schema.type = some "array" → schema.enum = none →
      schema.items = some item → Compiled defs item info → (∀ inner, info ≠ .array inner) →
      (∀ value, info ≠ .constString value) → Compiled defs schema (.array info)
  | enum {schema definition : Schema} {ref name : String} {values : List String} :
      schema.ref = some ref → refName ref = .ok name → defs.lookup name = some definition →
      definition.shape = .choice values → definition.ref = none → definition.enum = some values →
      definition.type ≠ some "number" → definition.type ≠ some "array" → Compiled defs schema (.enum name)
  | object {schema definition : Schema} {ref name : String} :
      schema.ref = some ref → refName ref = .ok name → defs.lookup name = some definition →
      definition.ref = none → definition.enum = none → definition.type = some "object" →
      Compiled defs schema (.object name)
  | named {schema definition : Schema} {ref : String} {info : TypeInfo} :
      schema.ref = some ref → resolveRef defs ref = .ok definition → definition.ref = none →
      Compiled defs definition info → (∀ inner, info ≠ .array inner) → (∀ value, info ≠ .constString value) →
      Compiled defs schema info

/-- The spec has the properties of the schema, in order. -/
structure FieldCompiled (defs : List (String × Schema)) (required : List String)
    (property : String × Schema) (field : FieldSpec) : Prop where
  name : field.yamlName = property.1
  required : field.required = required.contains property.1
  default : field.default = property.2.default
  type : Compiled defs property.2 field.typeInfo
  constant : ∀ value, field.typeInfo = .constString value → field.required = true

structure ObjectCompiled (defs : List (String × Schema)) (schema : Schema) (spec : ObjectSpec) : Prop where
  shape : schema.shape = .typed "object"
  closed : schema.additionalProperties = false
  required : ∀ name ∈ schema.required, name ∈ schema.properties.map Prod.fst
  fields : List.Forall₂ (FieldCompiled defs schema.required) schema.properties spec.fields

section Types

variable {defs : List (String × Schema)} {schema : Schema} {info : TypeInfo}

theorem compiled_of_scalar (defs : List (String × Schema)) (plain : schema.ref = none) (free : schema.const = none) (any : schema.enum = none)
    (short : schema.minLength ≤ 1) (scalar : scalarInfo schema = some info) :
    Compiled defs schema info ∧ (∀ inner, info ≠ .array inner) ∧ ∀ value, info ≠ .constString value := by
  unfold scalarInfo at scalar
  split at scalar
  next type =>
    cases scalar
    exact ⟨.string (shape_typed plain free any type) plain type any short, nofun, nofun⟩
  next type =>
    cases scalar
    exact ⟨.integer (shape_typed plain free any type) plain type any, nofun, nofun⟩
  next type =>
    cases scalar
    exact ⟨.number (shape_typed plain free any type) plain type any, nofun, nofun⟩
  next type =>
    cases scalar
    exact ⟨.boolean (shape_typed plain free any type) plain type any, nofun, nofun⟩
  · cases scalar

/-- What a supported definition is. -/
theorem supportedDefinition_spec (supported : schema.supportedDefinition = true) :
    schema.ref = none ∧ schema.const = none ∧ schema.minLength ≤ 1 ∧
      (schema.enum ≠ none → schema.type ≠ some "number" ∧ schema.type ≠ some "array" ∧
        schema.type ≠ some "object") ∧
      (schema.enum = none → schema.type = some "object" → schema.supportedObject = true) := by
  simp only [Schema.supportedDefinition, Bool.and_eq_true, Option.isNone_iff_eq_none, decide_eq_true_eq] at supported
  obtain ⟨⟨⟨plain, free⟩, short⟩, rest⟩ := supported
  refine ⟨plain, free, short, ?_, ?_⟩
  · intro listed
    rw [if_pos (Option.isSome_iff_ne_none.mpr listed)] at rest
    simp only [Schema.textual, Bool.and_eq_true, Bool.or_eq_true, decide_eq_true_eq] at rest
    rcases rest.1 with none | string
    · simp [none]
    · simp [string]
  · intro any object
    rw [any, if_neg (by simp)] at rest
    simpa [object] using rest

theorem compiled_of_refInfo {depth : Nat} {ref : String} (distinct : (defs.map Prod.fst).Nodup)
    (supported : ∀ definition ∈ defs, definition.2.supportedDefinition = true) (found : schema.ref = some ref)
    (typed : refInfo defs depth ref = .ok info) :
    Compiled defs schema info ∧ (∀ inner, info ≠ .array inner) ∧ ∀ value, info ≠ .constString value := by
  obtain ⟨name, named, typed⟩ := bind_eq_ok.mp typed
  obtain ⟨definition, resolvedRef, typed⟩ := bind_eq_ok.mp typed
  obtain ⟨resolved, resolvedType, typed⟩ := bind_eq_ok.mp typed
  obtain ⟨same, named', looked⟩ := resolveRef_ok.mp resolvedRef
  cases named.symm.trans named'
  have listed : (name, definition) ∈ defs := by
    obtain ⟨before, after, split, _⟩ := List.lookup_eq_some_iff.mp looked
    simp [split]
  obtain ⟨plain, free, short, choice, _⟩ := supportedDefinition_spec (supported _ listed)
  cases (resolveType_plain depth plain).symm.trans resolvedType
  rw [lookup_collectEnumDefs distinct looked] at typed
  cases any : definition.enum with
  | some values =>
      simp only [any, Option.isSome_some, if_true] at typed
      cases typed
      obtain ⟨notNumber, notArray, _⟩ := choice (by simp [any])
      exact ⟨.enum found named looked (shape_choice plain free any) plain any notNumber notArray, nofun, nofun⟩
  | none =>
      simp only [any, Option.isSome_none, Bool.false_eq_true, if_false] at typed
      split_ifs at typed with object
      · cases typed
        exact ⟨.object found named looked plain any object, nofun, nofun⟩
      · split at typed
        next scalar =>
          cases typed
          obtain ⟨compiled, notArray, notConstant⟩ := compiled_of_scalar defs plain free any short scalar
          exact ⟨.named found resolvedRef plain compiled notArray notConstant, notArray, notConstant⟩
        · cases typed

/-- An entry of an array is read as its schema says. -/
theorem compiled_of_entry {depth : Nat} (distinct : (defs.map Prod.fst).Nodup)
    (supported : ∀ definition ∈ defs, definition.2.supportedDefinition = true)
    (entry : schema.supportedEntry = true) (typed : typeInfo defs depth schema = .ok info) :
    Compiled defs schema info ∧ (∀ inner, info ≠ .array inner) ∧ ∀ value, info ≠ .constString value := by
  cases depth with
  | zero => cases typed
  | succ depth =>
      unfold typeInfo at typed
      cases found : schema.ref with
      | some ref =>
          rw [found] at typed
          exact compiled_of_refInfo distinct supported found typed
      | none =>
          simp only [Schema.supportedEntry, found, Bool.and_eq_true, Option.isNone_iff_eq_none, decide_eq_true_eq] at entry
          obtain ⟨⟨⟨free, any⟩, short⟩, notArray⟩ := entry
          simp only [found, free, any, Option.isSome_none, Bool.false_eq_true, if_false] at typed
          rw [if_neg (by simpa using notArray)] at typed
          split_ifs at typed
          split at typed
          next scalar =>
            cases typed
            exact compiled_of_scalar defs found free any short scalar
          · cases typed

theorem compiled_of_property {depth : Nat} {required : Bool} (distinct : (defs.map Prod.fst).Nodup)
    (supported : ∀ definition ∈ defs, definition.2.supportedDefinition = true)
    (property : schema.supportedProperty required = true) (typed : typeInfo defs depth schema = .ok info) :
    Compiled defs schema info ∧ ∀ value, info = .constString value → required = true := by
  cases depth with
  | zero => cases typed
  | succ depth =>
      unfold typeInfo at typed
      cases found : schema.ref with
      | some ref =>
          rw [found] at typed
          obtain ⟨compiled, _, notConstant⟩ := compiled_of_refInfo distinct supported found typed
          exact ⟨compiled, fun value same => absurd same (notConstant value)⟩
      | none =>
          simp only [Schema.supportedProperty, found] at property
          rw [found] at typed
          cases given : schema.const with
          | some literal =>
              simp only [given, Option.isSome_some, if_true, Bool.and_eq_true, Option.isNone_iff_eq_none] at property
              obtain ⟨⟨needed, any⟩, textual⟩ := property
              have type : schema.type = none ∨ schema.type = some "string" := by
                simp only [Schema.textual, Bool.and_eq_true, Bool.or_eq_true, decide_eq_true_eq] at textual
                exact textual.1
              rw [given] at typed
              cases literal with
              | string value =>
                  cases typed
                  refine ⟨.constant (shape_constant found given) ?_ ?_ any found, fun _ _ => needed⟩
                  · rcases type with none | string
                    · simp [none]
                    · simp [string]
                  · rcases type with none | string
                    · simp [none]
                    · simp [string]
              | number _ | boolean _ | other => cases typed
          | none =>
              simp only [given, Option.isSome_none, Bool.false_eq_true, if_false, Bool.and_eq_true, Bool.or_eq_true,
                Option.isNone_iff_eq_none, decide_eq_true_eq] at property
              obtain ⟨⟨any, short⟩, entries⟩ := property
              simp only [given, any, Option.isSome_none, Bool.false_eq_true, if_false] at typed
              by_cases array : schema.type = some "array"
              · rw [if_pos array] at typed
                cases listed : schema.items with
                | none => simp [listed] at typed
                | some item =>
                    simp only [listed] at typed
                    obtain ⟨inner, itemTyped, rfl⟩ := map_eq_ok.mp typed
                    have entry : item.supportedEntry = true := by
                      simpa [listed, array] using entries
                    obtain ⟨compiled, notArray, notConstant⟩ := compiled_of_entry distinct supported entry itemTyped
                    exact ⟨.array (shape_typed found given any array) found array any listed compiled notArray notConstant,
                      nofun⟩
              · rw [if_neg array] at typed
                split_ifs at typed
                split at typed
                next scalar =>
                  cases typed
                  obtain ⟨compiled, _, notConstant⟩ := compiled_of_scalar defs found given any short scalar
                  exact ⟨compiled, fun value same => absurd same (notConstant value)⟩
                · cases typed

end Types

section Objects

theorem ObjectCompiled.names {defs : List (String × Schema)} {schema : Schema} {spec : ObjectSpec}
    (compiled : ObjectCompiled defs schema spec) :
    spec.fields.map FieldSpec.yamlName = schema.properties.map Prod.fst := by
  have all := compiled.fields
  generalize schema.properties = properties at all ⊢
  generalize spec.fields = fields at all ⊢
  induction all with
  | nil => rfl
  | cons first _ ih => rw [List.map_cons, List.map_cons, first.name, ih]

variable {defs : List (String × Schema)} {schema : Schema} {spec : ObjectSpec} {depth : Nat} {schemaName : String}

theorem buildObjectSpec_compiled (distinct : (defs.map Prod.fst).Nodup)
    (supported : ∀ definition ∈ defs, definition.2.supportedDefinition = true) (plain : schema.ref = none)
    (free : schema.const = none) (any : schema.enum = none) (object : schema.supportedObject = true)
    (built : buildObjectSpec defs depth schemaName schema = .ok spec) :
    ObjectCompiled defs schema spec ∧ spec.schemaName = schemaName := by
  obtain ⟨resolved, resolves, built⟩ := bind_eq_ok.mp built
  cases (resolveType_plain depth plain).symm.trans resolves
  split_ifs at built with type
  rw [ne_eq, not_not] at type
  obtain ⟨fields, mapped, rfl⟩ := map_eq_ok.mp built
  simp only [Schema.supportedObject, Bool.and_eq_true, Bool.not_eq_true', List.all_eq_true, decide_eq_true_eq] at object
  obtain ⟨⟨⟨closed, required⟩, _⟩, properties⟩ := object
  refine ⟨⟨shape_typed plain free any type, closed, ?_, ?_⟩, rfl⟩
  · exact fun name member => List.contains_iff_mem.mp (required name member)
  · refine (List.forall₂_iff_get.mpr ?_)
    have all := List.forall₂_iff_get.mp (mapM_eq_ok.mp mapped)
    refine ⟨all.1, fun index inside inside' => ?_⟩
    obtain ⟨info, typed, field⟩ := map_eq_ok.mp (all.2 index inside inside')
    rw [← field]
    obtain ⟨compiled, constant⟩ := compiled_of_property distinct supported
      (properties _ (List.get_mem _ _)) typed
    exact ⟨rfl, rfl, rfl, compiled, constant⟩

end Objects

section Scope

/-- The function that reads a value of the type is declared. -/
def Covers (declared : List ObjectSpec) (info : TypeInfo) : Prop :=
  ∀ name ∈ info.dependency, name ∈ declared.map ObjectSpec.schemaName

/-- Every function finds those that it calls in its scope; the latest is first. -/
def Closed (defs : List (String × Schema)) : List ObjectSpec → Prop
  | [] => True
  | spec :: declared =>
      (∃ definition, defs.lookup spec.schemaName = some definition ∧ ObjectCompiled defs definition spec) ∧
        (∀ field ∈ spec.fields, Covers (spec :: declared) field.typeInfo) ∧ Closed defs declared

variable {defs : List (String × Schema)} {declared order : List ObjectSpec}

theorem enterFunction_spec {name : String} (closed : Closed defs declared)
    (member : name ∈ declared.map ObjectSpec.schemaName) :
    ∃ spec visible definition, enterFunction name declared = some (spec, visible) ∧
      defs.lookup name = some definition ∧ ObjectCompiled defs definition spec ∧
      (∀ field ∈ spec.fields, Covers visible field.typeInfo) ∧ Closed defs visible := by
  induction declared with
  | nil => cases member
  | cons spec declared ih =>
      unfold enterFunction
      split_ifs with same
      · obtain ⟨⟨definition, looked, compiled⟩, covers, rest⟩ := closed
        exact ⟨spec, spec :: declared, definition, rfl, same ▸ looked, compiled, covers,
          ⟨definition, looked, compiled⟩, covers, rest⟩
      · rw [List.map_cons, List.mem_cons] at member
        exact ih closed.2.2 (member.resolve_left fun other => same other.symm)

theorem covers_of_dependencies {spec : ObjectSpec}
    (known : ∀ name ∈ objectDependencies spec, name ∈ declared.map ObjectSpec.schemaName) :
    ∀ field ∈ spec.fields, Covers (spec :: declared) field.typeInfo := by
  intro field member name depends
  rw [List.map_cons, List.mem_cons]
  by_cases self : name = spec.schemaName
  · exact .inl self
  · refine .inr (known name (List.mem_filter.mpr ⟨?_, by simpa using self⟩))
    exact List.mem_filterMap.mpr ⟨field, member, depends⟩

/-- Functions that are emitted behind those they depend on find them. -/
theorem closed_of_settled {known : List String}
    (settled : Ordering.Settled ObjectSpec.schemaName objectDependencies known order)
    (before : ∀ name ∈ known, name ∈ declared.map ObjectSpec.schemaName) (closed : Closed defs declared)
    (compiled : ∀ spec ∈ order, ∃ definition, defs.lookup spec.schemaName = some definition ∧
      ObjectCompiled defs definition spec) : Closed defs (order.reverse ++ declared) := by
  induction order generalizing known declared with
  | nil => exact closed
  | cons spec order ih =>
      obtain ⟨here, later⟩ := settled
      rw [List.reverse_cons, List.append_assoc, List.singleton_append]
      refine ih later ?_ ⟨compiled spec List.mem_cons_self, ?_, closed⟩
        fun other member => compiled other (List.mem_cons_of_mem _ member)
      · intro name member
        rw [List.map_cons, List.mem_cons]
        exact (List.mem_cons.mp member).imp_right (before name)
      · exact covers_of_dependencies fun name member => before name (here name member)

end Scope

section Generation

variable {document : Document} {model : SchemaModel} {depth : Nat}

/-- What a schema model that was generated has in common with its document. -/
structure Generated (document : Document) (model : SchemaModel) (schema : Schema) : Prop where
  enumDefs : model.enumDefs = collectEnumDefs document.defs
  rootProperties : model.rootProperties = document.properties.map Prod.fst
  root : configProperties document = [(model.rootKey, schema)]
  rootSpec : ObjectCompiled document.defs schema model.rootSpec
  inPlace : ∀ field ∈ model.rootSpec.fields, field.required = false → ∀ name, field.typeInfo ≠ .object name
  covers : ∀ field ∈ model.rootSpec.fields, Covers model.objectSpecs.reverse field.typeInfo
  closed : Closed document.defs model.objectSpecs.reverse

theorem lookup_of_mem {entries : List (String × Schema)} (distinct : (entries.map Prod.fst).Nodup)
    {name : String} {schema : Schema} (member : (name, schema) ∈ entries) :
    entries.lookup name = some schema := by
  induction entries with
  | nil => cases member
  | cons first rest ih =>
      rw [List.map_cons, List.nodup_cons] at distinct
      rw [List.lookup_cons]
      rcases List.mem_cons.mp member with rfl | later
      · simp
      · have apart : name ≠ first.1 := by
          rintro rfl
          exact distinct.1 (List.mem_map.mpr ⟨_, later, rfl⟩)
        rw [beq_eq_false_iff_ne.mpr apart]
        exact ih distinct.2 later

/-- The specs of the definitions, before they are ordered. -/
theorem defObjectSpecs_compiled {specs : List (Option ObjectSpec)} (distinct : (document.defs.map Prod.fst).Nodup)
    (supported : ∀ definition ∈ document.defs, definition.2.supportedDefinition = true)
    (built : document.defs.mapM (defObjectSpec document.defs depth) = .ok specs) :
    (∀ spec ∈ specs.filterMap id, ∃ definition, document.defs.lookup spec.schemaName = some definition ∧
      ObjectCompiled document.defs definition spec) ∧
    ∀ definition ∈ document.defs, definition.2.type = some "object" →
      definition.1 ∈ (specs.filterMap id).map ObjectSpec.schemaName := by
  have all := mapM_eq_ok.mp built
  constructor
  · intro spec member
    obtain ⟨found, listed, same⟩ := List.mem_filterMap.mp member
    cases same
    obtain ⟨definition, origin, made⟩ := exists_of_mem_right all listed
    obtain ⟨plain, free, _, choice, object⟩ := supportedDefinition_spec (supported _ origin)
    obtain ⟨resolved, resolves, made⟩ := bind_eq_ok.mp made
    cases (resolveType_plain depth plain).symm.trans resolves
    by_cases type : definition.2.type = some "object"
    · rw [if_neg (not_not.mpr type)] at made
      obtain ⟨other, builds, same⟩ := map_eq_ok.mp made
      cases same
      have any : definition.2.enum = none := by
        by_contra listed
        exact (choice listed).2.2 type
      obtain ⟨compiled, named⟩ := buildObjectSpec_compiled distinct supported plain free any (object any type)
        builds
      exact ⟨definition.2, by rw [named]; exact lookup_of_mem distinct origin, compiled⟩
    · rw [if_pos type] at made
      cases made
  · intro definition member type
    obtain ⟨found, listed, made⟩ := exists_of_mem_left all member
    obtain ⟨plain, _⟩ := supportedDefinition_spec (supported _ member)
    obtain ⟨resolved, resolves, made⟩ := bind_eq_ok.mp made
    cases (resolveType_plain depth plain).symm.trans resolves
    rw [if_neg (not_not.mpr type)] at made
    obtain ⟨spec, builds, rfl⟩ := map_eq_ok.mp made
    have named : spec.schemaName = definition.1 := by
      obtain ⟨_, _, builds⟩ := bind_eq_ok.mp builds
      split_ifs at builds
      obtain ⟨_, _, rfl⟩ := map_eq_ok.mp builds
      rfl
    rw [← named]
    exact List.mem_map_of_mem (List.mem_filterMap.mpr ⟨some spec, listed, rfl⟩)

theorem covers_of_compiled {defs : List (String × Schema)} {declared : List ObjectSpec}
    (all : ∀ definition ∈ defs, definition.2.type = some "object" →
      definition.1 ∈ declared.map ObjectSpec.schemaName)
    {schema : Schema} {info : TypeInfo} (compiled : Compiled defs schema info) : Covers declared info := by
  have listed : ∀ {name : String} {definition : Schema}, defs.lookup name = some definition →
      definition.type = some "object" → name ∈ declared.map ObjectSpec.schemaName := by
    intro name definition looked type
    obtain ⟨before, after, split, _⟩ := List.lookup_eq_some_iff.mp looked
    exact all (name, definition) (by simp [split]) type
  intro name depends
  induction compiled with
  | object _ _ looked _ _ type =>
      cases depends
      exact listed looked type
  | @array _ _ info _ _ _ _ _ _ notArray _ ih =>
      cases info with
      | object inner => exact ih depends
      | array inner => exact absurd rfl (notArray inner)
      | constString _ | string _ | integer _ | number _ | boolean | enum _ => cases depends
  | named _ _ _ _ _ _ ih => exact ih depends
  | constant | string | integer | number | boolean | enum => cases depends

/-- A value is read as an object only through a reference to one. -/
theorem reference_of_object {defs : List (String × Schema)} {schema : Schema} {name : String}
    (compiled : Compiled defs schema (.object name)) :
    ∃ ref definition, schema.ref = some ref ∧ resolveRef defs ref = .ok definition ∧ definition.enum = none ∧
      definition.type = some "object" := by
  cases compiled with
  | object found named looked _ any type =>
      exact ⟨_, _, found, resolveRef_ok.mpr ⟨name, named, looked⟩, any, type⟩
  | named _ _ plain compiled =>
      cases compiled with
      | object found => simp [plain] at found
      | named found => simp [plain] at found

theorem generated_of_generate (supported : document.supported = true)
    (made : generate depth document = .ok model) : ∃ schema, Generated document model schema := by
  simp only [Document.supported, Bool.and_eq_true, decide_eq_true_eq, List.all_eq_true] at supported
  obtain ⟨⟨distinct, definitions⟩, roots⟩ := supported
  obtain ⟨root, rooted, made⟩ := bind_eq_ok.mp made
  obtain ⟨rootSpec, rootBuilt, made⟩ := bind_eq_ok.mp made
  obtain ⟨objectSpecs, emitted, made⟩ := bind_eq_ok.mp made
  split_ifs at made with fit
  cases made
  have single : configProperties document = [root] := by
    unfold findRootConfigKey at rooted
    split at rooted
    next property listed =>
      obtain ⟨_, _, rooted⟩ := bind_eq_ok.mp rooted
      split_ifs at rooted
      cases rooted
      exact listed
    · cases rooted
  have supportedRoot := roots root (by rw [single]; exact List.mem_cons_self)
  simp only [Schema.supportedRoot, Bool.and_eq_true, Option.isNone_iff_eq_none, List.all_eq_true] at supportedRoot
  obtain ⟨⟨⟨⟨plain, free⟩, any⟩, object⟩, inPlace⟩ := supportedRoot
  obtain ⟨rootCompiled, _⟩ := buildObjectSpec_compiled distinct definitions plain free any object rootBuilt
  obtain ⟨specs, built, emitted⟩ := bind_eq_ok.mp emitted
  split at emitted
  next order ordered =>
    cases emitted
    obtain ⟨permuted, settled⟩ := Ordering.emit_settled ordered
    obtain ⟨compiled, complete⟩ := defObjectSpecs_compiled distinct definitions built
    have everywhere : ∀ definition ∈ document.defs, definition.2.type = some "object" →
        definition.1 ∈ objectSpecs.reverse.map ObjectSpec.schemaName := by
      intro definition member type
      have listed := complete definition member type
      rw [List.map_reverse, List.mem_reverse]
      exact (permuted.map _).mem_iff.mpr listed
    have closed : Closed document.defs (objectSpecs.reverse ++ []) :=
      closed_of_settled settled nofun trivial fun spec member => compiled spec (permuted.mem_iff.mp member)
    rw [List.append_nil] at closed
    refine ⟨root.2, rfl, rfl, single, rootCompiled, ?_, ?_, closed⟩
    · intro field member optional name type
      obtain ⟨property, listed, fieldCompiled⟩ := exists_of_mem_right rootCompiled.fields member
      obtain ⟨ref, definition, found, resolved, any, object⟩ := reference_of_object (type ▸ fieldCompiled.type)
      have needed := inPlace property listed
      rw [← fieldCompiled.required, optional] at needed
      simp [found, resolved, any, object] at needed
    · intro field member
      obtain ⟨property, _, fieldCompiled⟩ := exists_of_mem_right rootCompiled.fields member
      exact covers_of_compiled everywhere fieldCompiled.type
  · cases emitted

theorem schemaNames_sublist {defs definitions : List (String × Schema)} {specs : List (Option ObjectSpec)}
    (built : List.Forall₂ (fun definition spec => defObjectSpec defs depth definition = .ok spec) definitions
      specs) :
    ((specs.filterMap id).map ObjectSpec.schemaName).Sublist (definitions.map Prod.fst) := by
  induction built with
  | nil => exact .slnil
  | @cons definition spec definitions specs one _ later =>
      cases spec with
      | none => exact later.cons _
      | some spec =>
          have named : spec.schemaName = definition.1 := by
            obtain ⟨_, _, one⟩ := bind_eq_ok.mp one
            split_ifs at one
            · cases one
            · obtain ⟨_, builds, ⟨⟩⟩ := map_eq_ok.mp one
              obtain ⟨_, _, builds⟩ := bind_eq_ok.mp builds
              split_ifs at builds
              obtain ⟨_, _, rfl⟩ := map_eq_ok.mp builds
              rfl
          rw [List.filterMap_cons, List.map_cons]
          simp only [id, List.map_cons, named]
          exact later.cons_cons _

end Generation

end RosPortal.Config
