import Mathlib.Data.Fintype.Card
import Mathlib.Logic.Relation

/-! Depth-first search of a graph that stops at the first node it looks for and does not
remember where it has been. It ends unless it enters a node again while it is inside it. -/

set_option autoImplicit false

namespace DepthFirst

variable {α : Type}

/-- A loop over nodes that returns at the first visit with a positive answer. -/
def anyOf (visit : α → Option Bool) : List α → Option Bool
  | [] => some false
  | node :: nodes =>
      match visit node with
      | none => none
      | some true => some true
      | some false => anyOf visit nodes

section AnyOf

variable {visit : α → Option Bool} {nodes : List α}

theorem anyOf_eq_false_iff : anyOf visit nodes = some false ↔ ∀ node ∈ nodes, visit node = some false := by
  induction nodes with
  | nil => simp [anyOf]
  | cons node nodes ih =>
      rw [anyOf, List.forall_mem_cons]
      cases answer : visit node with
      | none => simp
      | some found =>
          cases found with
          | true => simp
          | false => simpa using ih

theorem exists_of_anyOf_eq_true (found : anyOf visit nodes = some true) :
    ∃ node ∈ nodes, visit node = some true := by
  induction nodes with
  | nil => cases found
  | cons node nodes ih =>
      rw [anyOf] at found
      split at found
      · cases found
      · exact ⟨node, List.mem_cons_self, ‹_›⟩
      · obtain ⟨other, member, positive⟩ := ih found
        exact ⟨other, List.mem_cons_of_mem _ member, positive⟩

theorem anyOf_mono {more : α → Option Bool}
    (extended : ∀ node answer, visit node = some answer → more node = some answer) {answer : Bool}
    (ended : anyOf visit nodes = some answer) : anyOf more nodes = some answer := by
  induction nodes with
  | nil => exact ended
  | cons node nodes ih =>
      rw [anyOf] at ended ⊢
      cases result : visit node with
      | none => simp [result] at ended
      | some found =>
          rw [extended node found result]
          cases found with
          | true => simpa [result] using ended
          | false =>
              simp only [result] at ended
              exact ih ended

theorem isSome_visit_of_anyOf {before after : List α} {node : α}
    (ended : (anyOf visit (before ++ node :: after)).isSome)
    (negative : ∀ other ∈ before, visit other ≠ some true) : (visit node).isSome := by
  induction before with
  | nil =>
      rw [List.nil_append, anyOf] at ended
      split at ended
      · cases ended
      all_goals simp [‹visit node = _›]
  | cons first before ih =>
      rw [List.cons_append, anyOf] at ended
      split at ended
      · cases ended
      · exact absurd ‹_› (negative first List.mem_cons_self)
      · exact ih ended fun other member => negative other (List.mem_cons_of_mem _ member)

end AnyOf

variable (stop : α → Bool) (children : α → List α)

/-- The fuel bounds the depth of the recursion; without any the search has not ended. -/
def search : Nat → α → Option Bool
  | 0, _ => none
  | fuel + 1, node => if stop node then some true else anyOf (search fuel) (children node)

def Child (node next : α) : Prop := next ∈ children node

/-- Nothing below the node is looked for and nothing below it is below itself. -/
def Clear (node : α) : Prop :=
  ∀ other, Relation.ReflTransGen (Child children) node other →
    stop other = false ∧ ¬ Relation.TransGen (Child children) other other

/-- The search goes from a node to a child when it is through with the children before. -/
def Enters (node next : α) : Prop :=
  stop node = false ∧
    ∃ before after, children node = before ++ next :: after ∧ ∀ other ∈ before, Clear stop children other

/-- The search enters a node again while it is inside it. -/
def Circles (root : α) : Prop :=
  ∃ node, Relation.ReflTransGen (Enters stop children) root node ∧
    Relation.TransGen (Enters stop children) node node

section Search

variable {stop : α → Bool} {children : α → List α} {node : α} {fuel : Nat}

theorem search_mono {more : Nat} (enough : fuel ≤ more) {answer : Bool}
    (ended : search stop children fuel node = some answer) : search stop children more node = some answer := by
  induction fuel generalizing more node answer with
  | zero => cases ended
  | succ fuel ih =>
      cases more with
      | zero => exact absurd enough (Nat.not_succ_le_zero fuel)
      | succ more =>
          rw [search] at ended ⊢
          split at ended
          · rw [if_pos ‹_›, ended]
          · rw [if_neg ‹_›]
            exact anyOf_mono (fun _ _ => ih (Nat.le_of_succ_le_succ enough)) ended

theorem search_eq_false (ended : search stop children fuel node = some false) :
    stop node = false ∧ ∃ less < fuel, ∀ next, Child children node next →
      search stop children less next = some false := by
  cases fuel with
  | zero => cases ended
  | succ fuel =>
      rw [search] at ended
      split at ended
      · cases ended
      · exact ⟨Bool.eq_false_iff.mpr ‹_›, fuel, Nat.lt_succ_self fuel, anyOf_eq_false_iff.mp ended⟩

theorem search_eq_false_below {other : α} (below : Relation.TransGen (Child children) node other)
    (ended : search stop children fuel node = some false) :
    ∃ less < fuel, search stop children less other = some false := by
  induction below with
  | single child =>
      obtain ⟨_, less, fewer, all⟩ := search_eq_false ended
      exact ⟨less, fewer, all _ child⟩
  | tail _ child ih =>
      obtain ⟨middle, fewer, earlier⟩ := ih
      obtain ⟨_, less, fewest, all⟩ := search_eq_false earlier
      exact ⟨less, Nat.lt_trans fewest fewer, all _ child⟩

theorem not_search_eq_false_of_cycle (cycle : Relation.TransGen (Child children) node node) :
    search stop children fuel node ≠ some false := by
  induction fuel using Nat.strong_induction_on with
  | _ fuel ih =>
      intro ended
      obtain ⟨less, fewer, again⟩ := search_eq_false_below cycle ended
      exact ih less fewer again

/-- A search that ends without a find has seen everything below the node. -/
theorem clear_of_search (ended : search stop children fuel node = some false) :
    Clear stop children node := by
  intro other below
  rcases Relation.reflTransGen_iff_eq_or_transGen.mp below with rfl | strictly
  · exact ⟨(search_eq_false ended).1, fun cycle => not_search_eq_false_of_cycle cycle ended⟩
  · obtain ⟨less, _, seen⟩ := search_eq_false_below strictly ended
    exact ⟨(search_eq_false seen).1, fun cycle => not_search_eq_false_of_cycle cycle seen⟩

theorem stop_of_search (found : search stop children fuel node = some true) :
    ∃ other, Relation.ReflTransGen (Child children) node other ∧ stop other = true := by
  induction fuel generalizing node with
  | zero => cases found
  | succ fuel ih =>
      rw [search] at found
      split at found
      · exact ⟨node, .refl, ‹_›⟩
      · obtain ⟨next, child, positive⟩ := exists_of_anyOf_eq_true found
        obtain ⟨other, below, stopped⟩ := ih positive
        exact ⟨other, .head child below, stopped⟩

theorem Clear.search_ne_true (clear : Clear stop children node) :
    search stop children fuel node ≠ some true := by
  intro found
  obtain ⟨other, below, stopped⟩ := stop_of_search found
  rw [(clear other below).1] at stopped
  cases stopped

theorem isSome_search_of_enters {next : α} (enters : Enters stop children node next)
    (ended : (search stop children fuel node).isSome) :
    ∃ less < fuel, (search stop children less next).isSome := by
  obtain ⟨passed, before, after, order, clear⟩ := enters
  cases fuel with
  | zero => cases ended
  | succ fuel =>
      rw [search, passed, order] at ended
      exact ⟨fuel, Nat.lt_succ_self fuel,
        isSome_visit_of_anyOf ended fun other member => (clear other member).search_ne_true⟩

theorem isSome_search_below {other : α} (below : Relation.TransGen (Enters stop children) node other)
    (ended : (search stop children fuel node).isSome) :
    ∃ less < fuel, (search stop children less other).isSome := by
  induction below with
  | single enters => exact isSome_search_of_enters enters ended
  | tail _ enters ih =>
      obtain ⟨middle, fewer, earlier⟩ := ih
      obtain ⟨less, fewest, last⟩ := isSome_search_of_enters enters earlier
      exact ⟨less, Nat.lt_trans fewest fewer, last⟩

theorem not_isSome_search_of_cycle (cycle : Relation.TransGen (Enters stop children) node node) :
    ¬ (search stop children fuel node).isSome := by
  induction fuel using Nat.strong_induction_on with
  | _ fuel ih =>
      intro ended
      obtain ⟨less, fewer, again⟩ := isSome_search_below cycle ended
      exact ih less fewer again

/-- The loop over the children ends if the search of every child that is entered does. -/
theorem exists_anyOf (passed : stop node = false)
    (entered : ∀ next, Enters stop children node next → ∃ fuel, (search stop children fuel next).isSome)
    {before after : List α} (order : children node = before ++ after)
    (clear : ∀ other ∈ before, Clear stop children other) :
    ∃ fuel, (anyOf (search stop children fuel) after).isSome := by
  induction after generalizing before with
  | nil => exact ⟨0, rfl⟩
  | cons next after ih =>
      obtain ⟨fuel, ended⟩ := entered next ⟨passed, before, after, order, clear⟩
      obtain ⟨answer, result⟩ := Option.isSome_iff_exists.mp ended
      cases answer with
      | true => exact ⟨fuel, by simp [anyOf, result]⟩
      | false =>
          have further : ∀ other ∈ before ++ [next], Clear stop children other := by
            intro other member
            rcases List.mem_append.mp member with earlier | last
            · exact clear other earlier
            · exact List.mem_singleton.mp last ▸ clear_of_search result
          obtain ⟨rest, restEnded⟩ := ih (by rw [order, List.append_assoc]; rfl) further
          obtain ⟨last, lastResult⟩ := Option.isSome_iff_exists.mp restEnded
          refine ⟨max fuel rest, ?_⟩
          rw [anyOf, search_mono (Nat.le_max_left fuel rest) result]
          have whole := anyOf_mono (fun _ _ => search_mono (Nat.le_max_right fuel rest)) lastResult
          exact Option.isSome_iff_exists.mpr ⟨last, whole⟩

theorem exists_search_of_entered
    (entered : ∀ next, Enters stop children node next → ∃ fuel, (search stop children fuel next).isSome) :
    ∃ fuel, (search stop children fuel node).isSome := by
  cases passed : stop node with
  | true => exact ⟨1, by simp [search, passed]⟩
  | false =>
      have none : ∀ other ∈ ([] : List α), Clear stop children other := fun _ member => by cases member
      obtain ⟨fuel, ended⟩ := exists_anyOf passed entered (List.nil_append _).symm none
      exact ⟨fuel + 1, by simpa [search, passed] using ended⟩

/-- A node that the search from the root enters while it is inside another one. -/
def Deeper (stop : α → Bool) (children : α → List α) (root next node : α) : Prop :=
  Relation.ReflTransGen (Enters stop children) root node ∧
    Relation.TransGen (Enters stop children) node next

theorem wellFounded_deeper [Finite α] {root : α} (acyclic : ¬ Circles stop children root) :
    WellFounded (Deeper stop children root) := by
  have : IsTrans α (Deeper stop children root) :=
    ⟨fun _ _ _ first second => ⟨second.1, second.2.trans first.2⟩⟩
  have : Std.Irrefl (Deeper stop children root) := ⟨fun node deeper => acyclic ⟨node, deeper⟩⟩
  exact Finite.wellFounded_of_trans_of_irrefl _

/-- In a finite graph the search ends exactly when it does not run in a circle. -/
theorem exists_search_iff [Finite α] (root : α) :
    (∃ fuel, (search stop children fuel root).isSome) ↔ ¬ Circles stop children root := by
  constructor
  · intro ⟨fuel, ended⟩ ⟨node, inside, cycle⟩
    rcases Relation.reflTransGen_iff_eq_or_transGen.mp inside with rfl | strictly
    · exact not_isSome_search_of_cycle cycle ended
    · obtain ⟨less, _, again⟩ := isSome_search_below strictly ended
      exact not_isSome_search_of_cycle cycle again
  · intro acyclic
    have ends : ∀ node, Relation.ReflTransGen (Enters stop children) root node →
        ∃ fuel, (search stop children fuel node).isSome := by
      intro node
      -- the nodes entered deeper come first: there are finitely many and none lies below itself
      induction node using (wellFounded_deeper acyclic).induction with
      | _ node ih =>
          intro inside
          apply exists_search_of_entered
          intro next enters
          exact ih next ⟨inside, .single enters⟩ (inside.tail enters)
    exact ends root .refl

end Search

end DepthFirst
