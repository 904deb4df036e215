import Mathlib.Data.Finset.Card
import Mathlib.Data.Set.Finite.Basic
import Mathlib.Logic.Relation

/-! Depth-first walks of a graph that remember every node they have entered. The children of a
node are tried in the order in which they are given, and each is left before the next is tried. -/

set_option autoImplicit false

namespace Preorder

variable {Node : Type}

/-- A node that a walk has entered, with the number of nodes on the path to it. -/
structure Visit (Node : Type) where
  depth : Nat
  node : Node
deriving DecidableEq, Repr

variable [DecidableEq Node] (children : Node → List Node)

/-- A walk that tries these nodes at a depth. It starts with the nodes that were entered before
it and ends with those that have been entered then. -/
inductive Walks : Nat → Finset Node → List Node → List (Visit Node) → Finset Node → Prop where
  | done {depth seen} : Walks depth seen [] [] seen
  | skip {depth seen node rest visits after} (entered : node ∈ seen) :
      Walks depth seen rest visits after → Walks depth seen (node :: rest) visits after
  | enter {depth seen node rest below middle visits after} (fresh : node ∉ seen) :
      Walks (depth + 1) (insert node seen) (children node) below middle →
      Walks depth middle rest visits after →
      Walks depth seen (node :: rest) (⟨depth, node⟩ :: (below ++ visits)) after

/-- What is entered below a root, which is at depth 1. -/
def WalksFrom (root : Node) (visits : List (Visit Node)) : Prop :=
  ∃ after, Walks children 2 {root} (children root) visits after

def Reaches (root node : Node) : Prop :=
  Relation.ReflTransGen (fun parent child => child ∈ children parent) root node

variable {children} {depth : Nat} {seen after : Finset Node} {nodes : List Node}
  {visits : List (Visit Node)}

/-- The nodes that have been entered are those from before and those of the walk. -/
theorem Walks.mem_after_iff (walk : Walks children depth seen nodes visits after) (node : Node) :
    node ∈ after ↔ node ∈ seen ∨ node ∈ visits.map Visit.node := by
  induction walk with
  | done => simp
  | skip _ _ ih => exact ih
  | enter _ _ _ belowIH restIH =>
      rw [restIH, belowIH, Finset.mem_insert, List.map_cons, List.map_append, List.mem_cons,
        List.mem_append]
      tauto

theorem Walks.mem_after (walk : Walks children depth seen nodes visits after) {node : Node}
    (before : node ∈ seen) : node ∈ after :=
  (walk.mem_after_iff node).mpr (.inl before)

/-- No node is entered twice, and none that had been entered before. -/
theorem Walks.nodup (walk : Walks children depth seen nodes visits after) :
    (visits.map Visit.node).Nodup ∧ ∀ visit ∈ visits, visit.node ∉ seen := by
  induction walk with
  | done => exact ⟨List.nodup_nil, nofun⟩
  | skip _ _ ih => exact ih
  | enter fresh below rest belowIH restIH =>
      obtain ⟨belowDistinct, belowFresh⟩ := belowIH
      obtain ⟨restDistinct, restFresh⟩ := restIH
      have entered := below.mem_after (Finset.mem_insert_self _ _)
      constructor
      · rw [List.map_cons, List.map_append, List.nodup_cons, List.mem_append, List.nodup_append]
        refine ⟨?_, belowDistinct, restDistinct, ?_⟩
        · rintro (again | again) <;> obtain ⟨visit, member, same⟩ := List.mem_map.mp again
          · exact belowFresh visit member (same ▸ Finset.mem_insert_self _ _)
          · exact restFresh visit member (same ▸ entered)
        · rintro first inBelow _ inRest rfl
          obtain ⟨visit, member, rfl⟩ := List.mem_map.mp inRest
          exact restFresh visit member ((below.mem_after_iff _).mpr (.inr inBelow))
      · refine List.forall_mem_cons.mpr ⟨fresh, List.forall_mem_append.mpr ⟨?_, ?_⟩⟩
        · exact fun visit member before => belowFresh visit member (Finset.mem_insert_of_mem before)
        · exact fun visit member before =>
            restFresh visit member (below.mem_after (Finset.mem_insert_of_mem before))

/-- Every node that is tried has been entered in the end. -/
theorem Walks.tried (walk : Walks children depth seen nodes visits after) :
    ∀ node ∈ nodes, node ∈ after := by
  induction walk with
  | done => exact nofun
  | skip entered rest ih => exact List.forall_mem_cons.mpr ⟨rest.mem_after entered, ih⟩
  | enter _ below rest _ restIH =>
      exact List.forall_mem_cons.mpr
        ⟨rest.mem_after (below.mem_after (Finset.mem_insert_self _ _)), restIH⟩

/-- So have the children of every node it entered. -/
theorem Walks.closed (walk : Walks children depth seen nodes visits after) :
    ∀ visit ∈ visits, ∀ child ∈ children visit.node, child ∈ after := by
  induction walk with
  | done => exact nofun
  | skip _ _ ih => exact ih
  | enter _ below rest belowIH restIH =>
      refine List.forall_mem_cons.mpr ⟨?_, List.forall_mem_append.mpr ⟨?_, restIH⟩⟩
      · exact fun child member => rest.mem_after (below.tried child member)
      · exact fun visit member child later => rest.mem_after (belowIH visit member child later)

theorem Walks.reachable (walk : Walks children depth seen nodes visits after) :
    ∀ visit ∈ visits, ∃ node ∈ nodes, Reaches children node visit.node := by
  induction walk with
  | done => exact nofun
  | skip _ _ ih =>
      intro visit member
      obtain ⟨node, tried, path⟩ := ih visit member
      exact ⟨node, List.mem_cons_of_mem _ tried, path⟩
  | enter _ _ _ belowIH restIH =>
      refine List.forall_mem_cons.mpr ⟨⟨_, List.mem_cons_self, .refl⟩, List.forall_mem_append.mpr ⟨?_, ?_⟩⟩
      · intro visit member
        obtain ⟨child, tried, path⟩ := belowIH visit member
        exact ⟨_, List.mem_cons_self, .head tried path⟩
      · intro visit member
        obtain ⟨node, tried, path⟩ := restIH visit member
        exact ⟨node, List.mem_cons_of_mem _ tried, path⟩

/-- A walk from a root enters once each what can be reached from it, but not the root. -/
theorem WalksFrom.nodup {root : Node} (walk : WalksFrom children root visits) :
    (visits.map Visit.node).Nodup := by
  obtain ⟨after, walk⟩ := walk
  exact walk.nodup.1

theorem WalksFrom.mem_iff {root : Node} (walk : WalksFrom children root visits) (node : Node) :
    node ∈ visits.map Visit.node ↔ Reaches children root node ∧ node ≠ root := by
  obtain ⟨after, walk⟩ := walk
  constructor
  · intro member
    obtain ⟨visit, entered, rfl⟩ := List.mem_map.mp member
    obtain ⟨child, tried, path⟩ := walk.reachable visit entered
    refine ⟨.head tried path, fun same => ?_⟩
    exact walk.nodup.2 visit entered (Finset.mem_singleton.mpr same)
  · rintro ⟨path, other⟩
    have entered : node ∈ after := by
      clear other
      induction path with
      | refl => exact walk.mem_after (Finset.mem_singleton_self root)
      | tail _ edge ih =>
          rcases (walk.mem_after_iff _).mp ih with atRoot | visited
          · rw [Finset.mem_singleton.mp atRoot] at edge
            exact walk.tried _ edge
          · obtain ⟨visit, member, rfl⟩ := List.mem_map.mp visited
            exact walk.closed visit member _ edge
    exact ((walk.mem_after_iff node).mp entered).resolve_left fun atRoot =>
      other (Finset.mem_singleton.mp atRoot)

/-! ## Termination -/

theorem card_sdiff_lt {all entered : Finset Node} {node : Node} (member : node ∈ all)
    (before : node ∉ seen) (now : node ∈ entered) (more : seen ⊆ entered) :
    (all \ entered).card < (all \ seen).card := by
  apply Finset.card_lt_card
  refine Finset.ssubset_iff_of_subset (Finset.sdiff_subset_sdiff (Finset.Subset.refl _) more) |>.mpr
    ⟨node, Finset.mem_sdiff.mpr ⟨member, before⟩, fun left => (Finset.mem_sdiff.mp left).2 now⟩

/-- Each node that is entered leaves fewer of finitely many to enter. -/
theorem exists_walks {all : Finset Node} (closed : ∀ node, ∀ child ∈ children node, child ∈ all)
    (room : Nat) : ∀ {seen : Finset Node}, (all \ seen).card ≤ room → ∀ (depth : Nat) (nodes : List Node),
      (∀ node ∈ nodes, node ∈ all) → ∃ visits after, Walks children depth seen nodes visits after := by
  induction room using Nat.strong_induction_on with
  | _ room smaller =>
      intro seen left depth nodes
      induction nodes generalizing seen with
      | nil => exact fun _ => ⟨_, _, .done⟩
      | cons node rest ih =>
          intro inside
          obtain ⟨here, inside⟩ := List.forall_mem_cons.mp inside
          by_cases entered : node ∈ seen
          · obtain ⟨visits, after, walk⟩ := ih left inside
            exact ⟨_, _, .skip entered walk⟩
          · have fewer : (all \ insert node seen).card < room :=
              Nat.lt_of_lt_of_le (card_sdiff_lt here entered (Finset.mem_insert_self _ _)
                (Finset.subset_insert _ _)) left
            obtain ⟨below, middle, walkBelow⟩ :=
              smaller _ fewer (Nat.le_refl _) (depth + 1) (children node) (closed node)
            have fewer' : (all \ middle).card ≤ room := by
              refine Nat.le_trans (Finset.card_le_card (Finset.sdiff_subset_sdiff (Finset.Subset.refl _)
                fun other before => ?_)) left
              exact walkBelow.mem_after (Finset.mem_insert_of_mem before)
            obtain ⟨visits, after, walk⟩ := ih fewer' inside
            exact ⟨_, _, .enter entered walkBelow walk⟩

/-- Where finitely many nodes are children, there is a walk from every root. -/
theorem exists_walksFrom (finite : {child | ∃ node, child ∈ children node}.Finite) (root : Node) :
    ∃ visits, WalksFrom children root visits := by
  have closed : ∀ node, ∀ child ∈ children node, child ∈ finite.toFinset := fun node child member =>
    finite.mem_toFinset.mpr ⟨node, member⟩
  obtain ⟨visits, after, walk⟩ :=
    exists_walks closed _ (Nat.le_refl _) 2 (children root) (closed root)
  exact ⟨visits, after, walk⟩

end Preorder
