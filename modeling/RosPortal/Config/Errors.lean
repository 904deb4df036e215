import RosPortal.Config.Preservation

/-! The errors of a generated parser: each names a place of the document, by its path and where
there is one by its mark, at which the document is not what the schema admits. -/

set_option autoImplicit false

namespace RosPortal.Config

section Blame

variable {Double : Type} (conversions : Conversions Double) (defs : List (String × Schema))

/-- From a node and its schema down to one that is a part of it. -/
inductive LeadsTo : Schema → String → Node → Schema → String → Node → Prop where
  | here {schema : Schema} {path : String} {node : Node} : LeadsTo schema path node schema path node
  | reference {schema definition inner : Schema} {ref path innerPath : String} {node innerNode : Node} :
      schema.shape = .reference ref → resolveRef defs ref = .ok definition →
      LeadsTo definition path node inner innerPath innerNode →
      LeadsTo schema path node inner innerPath innerNode
  | property {schema property inner : Schema} {name path innerPath : String} {node child innerNode : Node}
      {pairs : List (Node × Node)} :
      schema.shape = .typed "object" → (name, property) ∈ schema.properties → node.pairs? = some pairs →
      Node.findPair pairs name = some child →
      LeadsTo property (fieldPath path name) child inner innerPath innerNode →
      LeadsTo schema path node inner innerPath innerNode
  | entry {schema item inner : Schema} {path innerPath : String} {node entry innerNode : Node}
      {entries : List Node} {index : Nat} :
      schema.shape = .typed "array" → schema.items = some item → node.entries? = some entries →
      entries[index]? = some entry → LeadsTo item (itemPath path index) entry inner innerPath innerNode →
      LeadsTo schema path node inner innerPath innerNode

/-- What is wrong with a map, apart from the values in it. -/
inductive MapOffends (properties : List (String × Schema)) (required : List String) (path : String) (node : Node) :
    ConfigError → Prop where
  | notMap :
      node.pairs? = none → MapOffends properties required path node
        ⟨nodeContext path node, "map", "found non-map value"⟩
  | key {pairs : List (Node × Node)} {pair : Node × Node} :
      node.pairs? = some pairs → pair ∈ pairs → pair.1.text? = none →
      MapOffends properties required path node
        ⟨nodeContext path pair.1, "string key", "found non-scalar map key"⟩
  | unknown {pairs : List (Node × Node)} {pair : Node × Node} {name : String} :
      node.pairs? = some pairs → pair ∈ pairs → pair.1.text? = some name → name ∉ properties.map Prod.fst →
      MapOffends properties required path node
        ⟨nodeContext (fieldPath path name) pair.1, "known field", "unknown field '" ++ name ++ "'"⟩
  | missing {pairs : List (Node × Node)} {name expected : String} :
      node.pairs? = some pairs → name ∈ required → Node.findPair pairs name = none →
      MapOffends properties required path node ⟨fieldPath path name, expected, "missing required field"⟩

/-- What is wrong with a node itself, and how an error says so. -/
inductive Offends (schema : Schema) (path : String) (node : Node) : ConfigError → Prop where
  | text {expected detail : String} :
      schema.shape ≠ .typed "object" → schema.shape ≠ .typed "array" →
      (∀ value : Value Double, ¬ Denotes conversions defs schema node value) →
      Offends schema path node ⟨nodeContext path node, expected, detail⟩
  | sequence :
      schema.shape = .typed "array" → node.entries? = none →
      Offends schema path node ⟨nodeContext path node, "sequence", "found non-sequence value"⟩
  | map {error : ConfigError} :
      schema.shape = .typed "object" → MapOffends schema.properties schema.required path node error →
      Offends schema path node error

/-- The error is about a part of the node. -/
def Blames (schema : Schema) (path : String) (node : Node) (error : ConfigError) : Prop :=
  ∃ inner innerPath innerNode, LeadsTo defs schema path node inner innerPath innerNode ∧
    Offends conversions defs inner innerPath innerNode error

/-- The error is about the root, or about a part of the config object. -/
def DocumentBlames (document : Document) (root : Node) (error : ConfigError) : Prop :=
  ∃ name schema, configProperties document = [(name, schema)] ∧
    (MapOffends document.properties [name] rootPath root error ∨
      ∃ pairs node, root.pairs? = some pairs ∧ Node.findPair pairs name = some node ∧
        Blames conversions document.defs schema (fieldPath rootPath name) node error)

end Blame

section Outcomes

variable {Problem α β : Type}

theorem bind_eq_error {first : Except Problem α} {next : α → Except Problem β} {problem : Problem} :
    first.bind next = .error problem ↔
      first = .error problem ∨ ∃ value, first = .ok value ∧ next value = .error problem := by
  cases first <;> simp [Except.bind]

theorem map_eq_error {first : Except Problem α} {function : α → β} {problem : Problem} :
    first.map function = .error problem ↔ first = .error problem := by
  cases first <;> simp [Except.map]

theorem mapM_eq_error {function : α → Except Problem β} {inputs : List α} {problem : Problem}
    (failed : inputs.mapM function = .error problem) : ∃ input ∈ inputs, function input = .error problem := by
  induction inputs with
  | nil => cases failed
  | cons input inputs ih =>
      rw [List.mapM_cons] at failed
      rcases bind_eq_error.mp failed with first | ⟨_, _, failed⟩
      · exact ⟨input, List.mem_cons_self, first⟩
      · rcases bind_eq_error.mp failed with rest | ⟨_, _, failed⟩
        · obtain ⟨other, member, found⟩ := ih rest
          exact ⟨other, List.mem_cons_of_mem _ member, found⟩
        · cases failed

end Outcomes

section Leaves

variable {Double Result : Type} {conversions : Conversions Double} {node : Node} {path expected detail : String}
  {failure : Failure}

/-- The failure is reported at the node. -/
def ReportedAt (path : String) (node : Node) (failure : Failure) : Prop :=
  ∃ expected detail, failure = .config ⟨nodeContext path node, expected, detail⟩

theorem reported_of_fail (failed : (fail path node expected detail : Except Failure Result) = .error failure) :
    ReportedAt path node failure := by
  cases failed
  exact ⟨expected, detail, rfl⟩

theorem reported_of_scalarString (failed : scalarString node path = .error failure) :
    ReportedAt path node failure := by
  unfold scalarString at failed
  split at failed
  · exact reported_of_fail failed
  · cases failed

theorem reported_of_constString {text : String}
    (failed : (parseConstString text node path : Except Failure (Value Double)) = .error failure) :
    ReportedAt path node failure := by
  rcases bind_eq_error.mp failed with failed | ⟨_, _, failed⟩
  · exact reported_of_scalarString failed
  · split_ifs at failed
    exact reported_of_fail failed

theorem reported_of_string {nonempty : Bool}
    (failed : (parseStringValue node path nonempty : Except Failure (Value Double)) = .error failure) :
    ReportedAt path node failure := by
  rcases bind_eq_error.mp failed with failed | ⟨_, _, failed⟩
  · exact reported_of_scalarString failed
  · split_ifs at failed
    exact reported_of_fail failed

theorem reported_of_integer {minimum : Option Int}
    (failed : parseIntegerValue conversions node path minimum expected = .error failure) :
    ReportedAt path node failure := by
  unfold parseIntegerValue at failed
  split at failed
  · exact reported_of_fail failed
  · split at failed
    · exact reported_of_fail failed
    · split at failed
      · cases failed
      · split at failed
        · exact reported_of_fail failed
        · cases failed

theorem reported_of_number {minimum : Option Double}
    (failed : parseNumberValue conversions node path minimum expected = .error failure) :
    ReportedAt path node failure := by
  unfold parseNumberValue at failed
  split at failed
  · exact reported_of_fail failed
  · split at failed
    · exact reported_of_fail failed
    · split at failed
      · cases failed
      · split at failed
        · exact reported_of_fail failed
        · cases failed

theorem reported_of_boolean (failed : parseBooleanValue conversions node path = .error failure) :
    ReportedAt path node failure := by
  unfold parseBooleanValue at failed
  split at failed
  · exact reported_of_fail failed
  · split at failed
    · exact reported_of_fail failed
    · cases failed

theorem reported_of_enum {canonical allowed : List String}
    (failed : (parseEnumValue canonical allowed node path : Except Failure (Value Double)) = .error failure) :
    ReportedAt path node failure := by
  rcases bind_eq_error.mp failed with failed | ⟨_, _, failed⟩
  · exact reported_of_scalarString failed
  · split_ifs at failed
    · exact reported_of_fail failed
    · exact reported_of_fail failed

end Leaves

section Maps

variable {path : String} {node : Node} {failure : Failure} {properties : List (String × Schema)}

theorem rejectUnknownPairs_error {allowed : List String} {pairs : List (Node × Node)}
    (failed : rejectUnknownPairs allowed path pairs = .error failure) :
    ∃ pair ∈ pairs,
      (pair.1.text? = none ∧
        failure = .config ⟨nodeContext path pair.1, "string key", "found non-scalar map key"⟩) ∨
      ∃ name, pair.1.text? = some name ∧ name ∉ allowed ∧ failure =
        .config ⟨nodeContext (fieldPath path name) pair.1, "known field", "unknown field '" ++ name ++ "'"⟩ := by
  induction pairs with
  | nil => cases failed
  | cons pair pairs ih =>
      obtain ⟨key, value⟩ := pair
      unfold rejectUnknownPairs mapKeyToString at failed
      cases text : key.text? with
      | none =>
          rw [text] at failed
          cases failed
          exact ⟨_, List.mem_cons_self, .inl ⟨text, rfl⟩⟩
      | some name =>
          simp only [text, Except.bind, List.contains_iff_mem] at failed
          split_ifs at failed with known
          · obtain ⟨other, member, wrong⟩ := ih failed
            exact ⟨other, List.mem_cons_of_mem _ member, wrong⟩
          · cases failed
            exact ⟨_, List.mem_cons_self, .inr ⟨name, text, known, rfl⟩⟩

theorem rejectUnknownFields_error (required : List String)
    (failed : rejectUnknownFields node (properties.map Prod.fst) path = .error failure) :
    ∃ error, failure = .config error ∧ MapOffends properties required path node error := by
  unfold rejectUnknownFields requireMap at failed
  cases map : node.pairs? with
  | none =>
      rw [map] at failed
      cases failed
      exact ⟨_, rfl, .notMap map⟩
  | some pairs =>
      rw [map] at failed
      obtain ⟨pair, member, ⟨text, rfl⟩ | ⟨name, text, unknown, rfl⟩⟩ := rejectUnknownPairs_error failed
      · exact ⟨_, rfl, .key map member text⟩
      · exact ⟨_, rfl, .unknown map member text unknown⟩

end Maps

section Compounds

variable {Double : Type} {conversions : Conversions Double} {defs : List (String × Schema)}
  {enums : List (String × List String)} {failure : Failure}

theorem parseEntries_error {parse : Node → String → Except Failure (Value Double)} {path : String}
    {entries : List Node} {start : Nat} (failed : parseEntries parse path start entries = .error failure) :
    ∃ index entry, entries[index]? = some entry ∧ parse entry (itemPath path (start + index)) = .error failure := by
  induction entries generalizing start with
  | nil => cases failed
  | cons entry entries ih =>
      rcases bind_eq_error.mp failed with first | ⟨_, _, rest⟩
      · exact ⟨0, entry, rfl, first⟩
      · obtain ⟨index, other, found, wrong⟩ := ih (map_eq_error.mp rest)
        refine ⟨index + 1, other, found, ?_⟩
        rw [← wrong]
        congr 2
        omega

theorem parseField_error {parse : ParseValue Double} {root : Bool} {node : Node} {path : String} {field : FieldSpec}
    (failed : parseField conversions enums parse root node path field = .error failure) :
    (node.find field.yamlName = none ∧ field.required = true ∧ ∃ expected, failure =
        .config ⟨fieldPath path field.yamlName, expected, "missing required field"⟩) ∨
      ∃ child, node.find field.yamlName = some child ∧
        parse field.typeInfo child (fieldPath path field.yamlName) = .error failure := by
  have failed := map_eq_error.mp failed
  cases found : node.find field.yamlName with
  | none =>
      simp only [found] at failed
      split_ifs at failed with needed
      cases failed
      exact .inl ⟨rfl, needed, _, rfl⟩
  | some child =>
      simp only [found] at failed
      refine .inr ⟨child, rfl, ?_⟩
      unfold readField at failed
      split at failed
      · cases failed
      · exact map_eq_error.mp failed

/-- If the calls for the values blame parts of them, so does the function of the object. -/
theorem parseObject_error {parse : ParseValue Double} {root : Bool} {spec : ObjectSpec} {schema : Schema}
    {node : Node} {path : String} (compiled : ObjectCompiled defs schema spec)
    (exact : schema.exactObject defs = true)
    (children : ∀ (property : Schema) (field : FieldSpec) (child : Node), field ∈ spec.fields →
      Compiled defs property field.typeInfo → property.ExactMinima → child.height < node.height →
        ∀ (path : String), parse field.typeInfo child path = .error failure →
          ∃ error, failure = .config error ∧ Blames conversions defs property path child error)
    (failed : parseObject conversions enums parse root spec node path = .error failure) :
    ∃ error, failure = .config error ∧ Blames conversions defs schema path node error := by
  rcases bind_eq_error.mp failed with unknown | ⟨⟨⟩, known, failed⟩
  · rw [compiled.names] at unknown
    obtain ⟨error, rfl, offends⟩ := rejectUnknownFields_error schema.required unknown
    exact ⟨error, rfl, schema, path, node, .here, .map compiled.shape offends⟩
  · obtain ⟨pairs, map, _⟩ := rejectUnknownFields_ok.mp known
    obtain ⟨field, member, failed⟩ := mapM_eq_error (map_eq_error.mp failed)
    obtain ⟨property, listed, one⟩ := exists_of_mem_right compiled.fields member
    have find : node.find field.yamlName = Node.findPair pairs property.1 := by
      simp only [Node.find, map, Option.bind_some, one.name]
    rcases parseField_error failed with ⟨missing, needed, expected, rfl⟩ | ⟨child, found, failed⟩
    · rw [find] at missing
      rw [one.required, List.contains_iff_mem] at needed
      refine ⟨_, rfl, schema, path, node, .here, .map compiled.shape ?_⟩
      rw [one.name]
      exact .missing map needed missing
    · rw [find] at found
      rw [one.name] at failed
      have shorter : child.height < node.height := by
        rw [height_pairs map]
        exact Nat.lt_succ_of_le (height_findPair found)
      obtain ⟨error, rfl, inner, innerPath, innerNode, leads, offends⟩ :=
        children property.2 field child member one.type
          (exactMinima_of_property (exactProperty_of_object exact _ listed)) shorter _ failed
      exact ⟨error, rfl, inner, innerPath, innerNode, .property compiled.shape listed map found leads, offends⟩

end Compounds

section Errors

variable {Double : Type} {conversions : Conversions Double} {document : Document} {model : SchemaModel}
  {failure : Failure}

theorem Blames.throughReference {defs : List (String × Schema)} {schema definition : Schema} {ref path : String}
    {node : Node} {error : ConfigError} (shape : schema.shape = .reference ref)
    (resolved : resolveRef defs ref = .ok definition) (blames : Blames conversions defs definition path node error) :
    Blames conversions defs schema path node error := by
  obtain ⟨inner, innerPath, innerNode, leads, offends⟩ := blames
  exact ⟨inner, innerPath, innerNode, .reference shape resolved leads, offends⟩

theorem blames_of_reported {defs : List (String × Schema)} {schema : Schema} {path : String} {node : Node}
    (reported : ReportedAt path node failure) (notObject : schema.shape ≠ .typed "object")
    (notArray : schema.shape ≠ .typed "array")
    (never : ∀ value : Value Double, ¬ Denotes conversions defs schema node value) :
    ∃ error, failure = .config error ∧ Blames conversions defs schema path node error := by
  obtain ⟨expected, detail, rfl⟩ := reported
  exact ⟨_, rfl, schema, path, node, .here, .text notObject notArray never⟩

theorem parseValue_error (distinct : (document.defs.map Prod.fst).Nodup)
    (exact : ∀ definition ∈ document.defs, definition.2.exactDefinition document.defs = true) {fuel : Nat}
    {declared : List ObjectSpec} {schema : Schema} {info : TypeInfo} {node : Node} {path : String}
    (compiled : Compiled document.defs schema info) (minima : schema.ExactMinima)
    (closed : Closed document.defs declared) (covers : Covers declared info) (enough : node.height < fuel)
    (failed : parseValue conversions (collectEnumDefs document.defs) fuel declared info node path =
      .error failure) :
    ∃ error, failure = .config error ∧ Blames conversions document.defs schema path node error := by
  induction fuel generalizing declared schema info node path with
  | zero => cases enough
  | succ fuel ih =>
      have never : ∀ value : Value Double, ¬ Denotes conversions document.defs schema node value := by
        intro value denotes
        have accepted : parseValue conversions (collectEnumDefs document.defs) (fuel + 1) declared info node path =
            .ok value := (parseValue_ok distinct exact compiled minima closed covers enough).mpr denotes
        rw [failed] at accepted
        cases accepted
      induction compiled with
      | constant shape =>
          exact blames_of_reported (reported_of_constString failed) (by simp [shape]) (by simp [shape]) never
      | string shape =>
          exact blames_of_reported (reported_of_string failed) (by simp [shape]) (by simp [shape]) never
      | integer shape =>
          exact blames_of_reported (reported_of_integer failed) (by simp [shape]) (by simp [shape]) never
      | number shape =>
          exact blames_of_reported (reported_of_number failed) (by simp [shape]) (by simp [shape]) never
      | boolean shape =>
          exact blames_of_reported (reported_of_boolean failed) (by simp [shape]) (by simp [shape]) never
      | enum found named looked shape =>
          have resolved := resolveRef_ok.mpr ⟨_, named, looked⟩
          have shaped := shape_reference found
          obtain ⟨error, rfl, blames⟩ := blames_of_reported (reported_of_enum failed) (by simp [shape]) (by simp [shape])
            fun value denotes => never value ((denotes_reference shaped resolved).mpr denotes)
          exact ⟨error, rfl, blames.throughReference shaped resolved⟩
      | object found named looked =>
          obtain ⟨spec, visible, definition, entered, looked', object, visibleCovers, visibleClosed⟩ :=
            enterFunction_spec closed (covers _ rfl)
          cases looked.symm.trans looked'
          unfold parseValue at failed
          simp only [entered] at failed
          obtain ⟨error, rfl, blames⟩ := parseObject_error object (exactObject_of_lookup exact looked)
            (fun property field child member inner minima shorter path => ih inner minima visibleClosed
              (visibleCovers field member) (by omega)) failed
          exact ⟨error, rfl, blames.throughReference (shape_reference found) (resolveRef_ok.mpr ⟨_, named, looked⟩)⟩
      | @array schema item info shape plain type any listed inner notArray notConstant _ =>
          unfold parseValue parseSequence at failed
          rcases bind_eq_error.mp failed with notSequence | ⟨entries, found, failed⟩
          · unfold requireSequence at notSequence
            split at notSequence
            next without =>
              cases notSequence
              exact ⟨_, rfl, schema, path, node, .here, .sequence shape without⟩
            · cases notSequence
          · have found := requireSequence_ok.mp found
            have innerCovers : Covers declared info := by
              intro name depends
              cases info with
              | object other => exact covers name depends
              | array other => exact absurd rfl (notArray other)
              | constString _ | string _ | integer _ | number _ | boolean | enum _ => cases depends
            have loop : parseEntries (parseValue conversions (collectEnumDefs document.defs) fuel declared info) path 0
                entries = .error failure := by
              have failed := map_eq_error.mp failed
              cases info with
              | array other => exact absurd rfl (notArray other)
              | constString text => exact absurd rfl (notConstant text)
              | string _ | integer _ | number _ | boolean | enum _ | object _ => exact failed
            obtain ⟨index, entry, here, failed⟩ := parseEntries_error loop
            rw [Nat.zero_add] at failed
            have shorter := height_entry (List.mem_of_getElem? here)
            have taller := height_entries found
            obtain ⟨error, rfl, lower, lowerPath, lowerNode, leads, offends⟩ :=
              ih inner (exactMinima_of_entry inner notArray (minima.2 plain type item listed)) closed innerCovers
                (by omega) failed
            exact ⟨error, rfl, lower, lowerPath, lowerNode, .entry shape listed found here leads, offends⟩
      | named found resolved _ compiled notArray _ inner =>
          have shaped := shape_reference found
          obtain ⟨_, _, looked⟩ := resolveRef_ok.mp resolved
          have minima := exactMinima_of_entry compiled notArray (exactMinimum_of_lookup exact looked)
          obtain ⟨error, rfl, blames⟩ := inner minima covers failed fun value denotes =>
            never value ((denotes_reference shaped resolved).mpr denotes)
          exact ⟨error, rfl, blames.throughReference shaped resolved⟩

end Errors

end RosPortal.Config
