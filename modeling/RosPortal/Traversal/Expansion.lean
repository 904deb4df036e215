import Mathlib.Data.Finset.Card
import Mathlib.Data.Set.Finite.Basic

/-! Documents whose lines may refer to documents. A document is expanded in place: below each
line that refers to a document come the lines of that document, one level deeper, unless it is
one of the documents around the line. -/

set_option autoImplicit false

namespace Expansion

variable {Name Line : Type}

/-- The lines of a document, when there is one of this name, and what a line of it refers to. -/
structure Documents (Name Line : Type) where
  lines : Name → Option (List Line)
  reference : Name → Line → Option Name

/-- A line of an expansion, with the number of documents it is nested in. -/
structure Placed (Line : Type) where
  level : Nat
  line : Line
deriving DecidableEq, Repr

variable [DecidableEq Name] (documents : Documents Name Line)

/-- The expansion of the remaining lines of a document, which is one of those around them. It
breaks off, and is not complete, below the first reference to a document there is not. -/
inductive Expands : Finset Name → Nat → Name → List Line → Bool → List (Placed Line) → Prop where
  | done {around level name} : Expands around level name [] true []
  | plain {around level name line lines complete placed}
      (closed : ∀ inner, documents.reference name line = some inner → inner ∈ around) :
      Expands around level name lines complete placed →
      Expands around level name (line :: lines) complete (⟨level, line⟩ :: placed)
  | missing {around level name line lines inner}
      (refers : documents.reference name line = some inner) (outside : inner ∉ around)
      (absent : documents.lines inner = none) :
      Expands around level name (line :: lines) false [⟨level, line⟩]
  | broken {around level name line lines inner body below}
      (refers : documents.reference name line = some inner) (outside : inner ∉ around)
      (present : documents.lines inner = some body) :
      Expands (insert inner around) (level + 1) inner body false below →
      Expands around level name (line :: lines) false (⟨level, line⟩ :: below)
  | nested {around level name line lines inner body below complete placed}
      (refers : documents.reference name line = some inner) (outside : inner ∉ around)
      (present : documents.lines inner = some body) :
      Expands (insert inner around) (level + 1) inner body true below →
      Expands around level name lines complete placed →
      Expands around level name (line :: lines) complete (⟨level, line⟩ :: (below ++ placed))

/-- The expansion of a whole document, inside those around it. -/
inductive ExpandsDocument (around : Finset Name) (level : Nat) (name : Name) :
    Bool → List (Placed Line) → Prop where
  | absent (absent : documents.lines name = none) : ExpandsDocument around level name false []
  | opened {body complete placed} (present : documents.lines name = some body)
      (expands : Expands documents (insert name around) level name body complete placed) :
      ExpandsDocument around level name complete placed

/-- The documents to expand below a root, each with those around it. -/
inductive Expanded (root : Name) : Finset Name → Name → Prop where
  | root : Expanded root ∅ root
  | inside {around name body line inner} (outer : Expanded root around name)
      (present : documents.lines name = some body) (member : line ∈ body)
      (refers : documents.reference name line = some inner) (outside : inner ∉ insert name around) :
      Expanded root (insert name around) inner

variable {documents}

/-! ## Termination -/

/-- Inside one document more, fewer documents are left to be inside of. -/
theorem card_sdiff_insert_lt {present around : Finset Name} {name : Name} (member : name ∈ present)
    (outside : name ∉ around) : (present \ insert name around).card < (present \ around).card := by
  refine Finset.card_lt_card (Finset.ssubset_iff_subset_ne.mpr ⟨?_, fun same => ?_⟩)
  · exact Finset.sdiff_subset_sdiff (Finset.Subset.refl _) (Finset.subset_insert _ _)
  · have left : name ∈ present \ insert name around := same ▸ Finset.mem_sdiff.mpr ⟨member, outside⟩
    exact (Finset.mem_sdiff.mp left).2 (Finset.mem_insert_self _ _)

theorem exists_expands_of_room {present : Finset Name}
    (finite : ∀ name, (documents.lines name).isSome → name ∈ present) (room : Nat) :
    ∀ {around : Finset Name}, (present \ around).card ≤ room → ∀ (level : Nat) (name : Name)
      (lines : List Line), ∃ complete placed, Expands documents around level name lines complete placed := by
  induction room using Nat.strong_induction_on with
  | _ room smaller =>
      intro around left level name lines
      induction lines with
      | nil => exact ⟨_, _, .done⟩
      | cons line lines ih =>
          obtain ⟨complete, placed, rest⟩ := ih
          cases refers : documents.reference name line with
          | none => exact ⟨_, _, .plain (fun inner refers' => nomatch refers.symm.trans refers') rest⟩
          | some inner =>
              by_cases outside : inner ∈ around
              · refine ⟨_, _, .plain (fun other refers' => ?_) rest⟩
                rw [refers] at refers'
                exact Option.some.inj refers' ▸ outside
              · cases present' : documents.lines inner with
                | none => exact ⟨_, _, .missing refers outside present'⟩
                | some body =>
                    have fewer := card_sdiff_insert_lt (finite inner (by rw [present']; rfl)) outside
                    obtain ⟨whole, below, inside⟩ :=
                      smaller _ (Nat.lt_of_lt_of_le fewer left) (Nat.le_refl _) (level + 1) inner body
                    cases whole with
                    | false => exact ⟨_, _, .broken refers outside present' inside⟩
                    | true => exact ⟨_, _, .nested refers outside present' inside rest⟩

/-- Where there are finitely many documents, each has an expansion. -/
theorem exists_expandsDocument (finite : {name | (documents.lines name).isSome}.Finite)
    (around : Finset Name) (level : Nat) (name : Name) :
    ∃ complete placed, ExpandsDocument documents around level name complete placed := by
  cases present : documents.lines name with
  | none => exact ⟨_, _, .absent present⟩
  | some body =>
      obtain ⟨complete, placed, expands⟩ :=
        exists_expands_of_room (fun _ there => finite.mem_toFinset.mpr there) _ (Nat.le_refl _)
          level name body
      exact ⟨_, _, .opened present expands⟩

/-- No line of an expansion is less deep than its document. -/
theorem Expands.level_le {around : Finset Name} {level : Nat} {name : Name} {lines : List Line}
    {complete : Bool} {placed : List (Placed Line)}
    (expands : Expands documents around level name lines complete placed) :
    ∀ entry ∈ placed, level ≤ entry.level := by
  induction expands with
  | done => exact nofun
  | plain _ _ ih => exact List.forall_mem_cons.mpr ⟨Nat.le_refl _, ih⟩
  | missing => exact List.forall_mem_cons.mpr ⟨Nat.le_refl _, nofun⟩
  | broken _ _ _ _ ih =>
      exact List.forall_mem_cons.mpr ⟨Nat.le_refl _, fun entry member => Nat.le_of_succ_le (ih entry member)⟩
  | nested _ _ _ _ _ insideIH restIH =>
      refine List.forall_mem_cons.mpr ⟨Nat.le_refl _, List.forall_mem_append.mpr ⟨?_, restIH⟩⟩
      exact fun entry member => Nat.le_of_succ_le (insideIH entry member)

/-! ## Completeness -/

/-- In a complete expansion, the one below a line is complete. -/
theorem Expands.below_line {around : Finset Name} {level : Nat} {name : Name} {lines : List Line}
    {placed : List (Placed Line)} (expands : Expands documents around level name lines true placed)
    {line : Line} (member : line ∈ lines) {inner : Name}
    (refers : documents.reference name line = some inner) (outside : inner ∉ around) :
    ∃ below, ExpandsDocument documents around (level + 1) inner true below := by
  generalize whole : true = complete at expands
  induction expands with
  | done => cases member
  | plain closed rest ih =>
      rcases List.mem_cons.mp member with rfl | later
      · exact absurd (closed inner refers) outside
      · exact ih later refers outside whole
  | missing => cases whole
  | broken => cases whole
  | nested refers' outside' present inside rest insideIH restIH =>
      rcases List.mem_cons.mp member with rfl | later
      · cases Option.some.inj (refers.symm.trans refers')
        cases whole
        exact ⟨_, .opened present inside⟩
      · exact restIH later refers outside whole

theorem Expanded.complete {root : Name} {level : Nat} {placed : List (Placed Line)}
    (whole : ExpandsDocument documents ∅ level root true placed) {around : Finset Name} {name : Name}
    (expanded : Expanded documents root around name) :
    ∃ level placed, ExpandsDocument documents around level name true placed := by
  induction expanded with
  | root => exact ⟨level, placed, whole⟩
  | inside outer present member refers outside ih =>
      obtain ⟨level, placed, outerComplete⟩ := ih
      cases outerComplete with
      | opened present' expands =>
          cases Option.some.inj (present.symm.trans present')
          obtain ⟨below, complete⟩ := expands.below_line member refers outside
          exact ⟨_, _, complete⟩

/-- An expansion that breaks off does so at a document that was to be expanded. -/
theorem Expands.exists_absent {around : Finset Name} {level : Nat} {name : Name} {lines : List Line}
    {placed : List (Placed Line)} (expands : Expands documents around level name lines false placed)
    {root : Name} {outer : Finset Name} (expanded : Expanded documents root outer name)
    (here : around = insert name outer) {body : List Line} (present : documents.lines name = some body)
    (part : lines ⊆ body) :
    ∃ around name, Expanded documents root around name ∧ documents.lines name = none := by
  generalize broken : false = complete at expands
  induction expands generalizing outer body with
  | done => cases broken
  | plain closed rest ih =>
      exact ih expanded here present (List.subset_of_cons_subset part) broken
  | missing refers outside absent =>
      subst here
      exact ⟨_, _, .inside expanded present (part List.mem_cons_self) refers outside, absent⟩
  | broken refers outside present' inside ih =>
      subst here
      exact ih (.inside expanded present (part List.mem_cons_self) refers outside) rfl present'
        (List.Subset.refl _) rfl
  | nested refers outside present' inside rest insideIH restIH =>
      exact restIH expanded here present (List.subset_of_cons_subset part) broken

/-- An expansion is complete unless a document to expand is not there. -/
theorem ExpandsDocument.complete_eq_false_iff {root : Name} {level : Nat} {complete : Bool}
    {placed : List (Placed Line)} (expands : ExpandsDocument documents ∅ level root complete placed) :
    complete = false ↔
      ∃ around name, Expanded documents root around name ∧ documents.lines name = none := by
  constructor
  · rintro rfl
    cases expands with
    | absent absent => exact ⟨_, _, .root, absent⟩
    | opened present expands =>
        exact expands.exists_absent .root rfl present (List.Subset.refl _)
  · rintro ⟨around, name, expanded, absent⟩
    cases complete with
    | false => rfl
    | true =>
        obtain ⟨level, placed, inside⟩ := expanded.complete expands
        cases inside with
        | opened present => cases absent.symm.trans present

end Expansion
