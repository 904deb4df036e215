import Mathlib.Data.Fintype.Card
import Mathlib.Data.List.Nodup
import Mathlib.Data.Set.Finite.List
import Mathlib.Logic.Relation

/-! Emitting items behind what they depend on, in passes over those that are still pending. A
pass emits every item whose dependencies are out when it comes to it; a pass that emits nothing
ends the emission. -/

set_option autoImplicit false

namespace Ordering

variable {Item Key : Type} [DecidableEq Key] (key : Item → Key) (dependencies : Item → List Key)

/-- One pass: what it emits, and what it leaves pending. -/
def pass : List Item → List Key → List Item × List Item
  | [], _ => ([], [])
  | item :: items, emitted =>
      if (dependencies item).all emitted.contains then
        let rest := pass items (key item :: emitted)
        (item :: rest.1, rest.2)
      else
        let rest := pass items emitted
        (rest.1, item :: rest.2)

/-- `fuel` bounds the passes. The error is what is left pending. -/
def emitFrom : Nat → List Item → List Item → Except (List Item) (List Item)
  | _, [], order => .ok order
  | 0, pending, _ => .error pending
  | fuel + 1, pending, order =>
      match pass key dependencies pending (order.map key) with
      | ([], stuck) => .error stuck
      | (out, rest) => emitFrom fuel rest (order ++ out)

def emit (items : List Item) : Except (List Item) (List Item) :=
  emitFrom key dependencies items.length items []

/-- Every item comes behind what it depends on, or that is known beforehand. -/
def Settled (known : List Key) : List Item → Prop
  | [] => True
  | item :: items => (∀ dependency ∈ dependencies item, dependency ∈ known) ∧ Settled (key item :: known) items

/-- One item needs another one of the list. -/
def Needs (items : List Item) (item needed : Item) : Prop :=
  needed ∈ items ∧ key needed ∈ dependencies item

/-- No item needs itself, however far around. -/
def Acyclic (items : List Item) : Prop :=
  ∀ item ∈ items, ¬ Relation.TransGen (Needs key dependencies items) item item

section Settled

variable {key} {dependencies} {known other : List Key} {items order : List Item}

omit [DecidableEq Key] in
theorem Settled.mono (settled : Settled key dependencies known order)
    (more : ∀ name ∈ known, name ∈ other) : Settled key dependencies other order := by
  induction order generalizing known other with
  | nil => trivial
  | cons item items ih =>
      obtain ⟨here, later⟩ := settled
      refine ⟨fun dependency member => more dependency (here dependency member), ih later ?_⟩
      intro name member
      rcases List.mem_cons.mp member with rfl | member
      · exact List.mem_cons_self
      · exact List.mem_cons_of_mem _ (more name member)

omit [DecidableEq Key] in
theorem Settled.append {rest : List Item} (settled : Settled key dependencies known order)
    (behind : Settled key dependencies (order.map key ++ known) rest) :
    Settled key dependencies known (order ++ rest) := by
  induction order generalizing known with
  | nil => exact behind
  | cons item items ih =>
      refine ⟨settled.1, ih settled.2 (behind.mono ?_)⟩
      intro name member
      simp only [List.map_cons, List.cons_append, List.mem_cons, List.mem_append] at member ⊢
      tauto

omit [DecidableEq Key] in
/-- The first of some items in a settled order needs none of them. -/
theorem Settled.first (settled : Settled key dependencies known order) {chosen : Item → Prop}
    (found : ∃ item ∈ order, chosen item) :
    ∃ item ∈ order, chosen item ∧ ∀ dependency ∈ dependencies item,
      dependency ∈ known ∨ ∃ earlier ∈ order, ¬ chosen earlier ∧ key earlier = dependency := by
  induction order generalizing known with
  | nil =>
      obtain ⟨item, member, _⟩ := found
      cases member
  | cons head items ih =>
      obtain ⟨here, later⟩ := settled
      by_cases first : chosen head
      · exact ⟨head, List.mem_cons_self, first, fun dependency member => .inl (here dependency member)⟩
      · obtain ⟨item, member, holds⟩ := found
        have remains : ∃ item ∈ items, chosen item := by
          rcases List.mem_cons.mp member with rfl | member
          · exact absurd holds first
          · exact ⟨item, member, holds⟩
        obtain ⟨item, member, holds, needs⟩ := ih later remains
        refine ⟨item, List.mem_cons_of_mem _ member, holds, fun dependency listed => ?_⟩
        rcases needs dependency listed with known | ⟨earlier, among, others, same⟩
        · rcases List.mem_cons.mp known with rfl | known
          · exact .inr ⟨head, List.mem_cons_self, first, rfl⟩
          · exact .inl known
        · exact .inr ⟨earlier, List.mem_cons_of_mem _ among, others, same⟩

omit [DecidableEq Key] in
/-- In a settled order every item is well-founded under what it needs. -/
theorem Settled.accessible (distinct : (items.map key).Nodup) (settled : Settled key dependencies known order)
    (among : ∀ item ∈ order, item ∈ items)
    (before : ∀ item ∈ items, key item ∈ known →
      Acc (fun needed item => Needs key dependencies items item needed) item) :
    ∀ item ∈ order, Acc (fun needed item => Needs key dependencies items item needed) item := by
  induction order generalizing known with
  | nil => nofun
  | cons head rest ih =>
      obtain ⟨here, later⟩ := settled
      have first : Acc (fun needed item => Needs key dependencies items item needed) head :=
        .intro head fun needed needs => before needed needs.1 (here (key needed) needs.2)
      have others := ih later (fun item member => among item (List.mem_cons_of_mem _ member)) (by
        intro item member named
        rcases List.mem_cons.mp named with same | known
        · have one := List.inj_on_of_nodup_map distinct member (among head List.mem_cons_self) same
          exact one ▸ first
        · exact before item member known)
      intro item member
      rcases List.mem_cons.mp member with rfl | member
      · exact first
      · exact others item member

end Settled

section Pass

/-- All that a pass does. -/
theorem pass_spec (pending : List Item) (emitted : List Key) :
    Settled key dependencies emitted (pass key dependencies pending emitted).1 ∧
      ((pass key dependencies pending emitted).1 ++ (pass key dependencies pending emitted).2).Perm pending ∧
      ∀ item ∈ (pass key dependencies pending emitted).2,
        ∃ dependency ∈ dependencies item, dependency ∉ emitted := by
  induction pending generalizing emitted with
  | nil => exact ⟨trivial, .nil, nofun⟩
  | cons item items ih =>
      unfold pass
      split_ifs with out
      · obtain ⟨settled, same, waits⟩ := ih (key item :: emitted)
        refine ⟨⟨?_, settled⟩, same.cons item, ?_⟩
        · intro dependency member
          exact List.contains_iff_mem.mp (List.all_eq_true.mp out dependency member)
        · intro other member
          obtain ⟨dependency, listed, missing⟩ := waits other member
          exact ⟨dependency, listed, fun known => missing (List.mem_cons_of_mem _ known)⟩
      · obtain ⟨settled, same, waits⟩ := ih emitted
        refine ⟨settled, List.perm_middle.trans (same.cons item), ?_⟩
        intro other member
        rcases List.mem_cons.mp member with rfl | member
        · rw [List.all_eq_true] at out
          push Not at out
          obtain ⟨dependency, listed, missing⟩ := out
          exact ⟨dependency, listed, fun known => missing (List.contains_iff_mem.mpr known)⟩
        · exact waits other member

end Pass

section Emission

variable {key} {dependencies} {items : List Item}

/-- Either all items come out in a settled order, or what is left waits for itself. -/
theorem emitFrom_spec {fuel : Nat} {pending order : List Item} (enough : pending.length ≤ fuel)
    (settled : Settled key dependencies [] order) :
    (∃ final, emitFrom key dependencies fuel pending order = .ok final ∧ final.Perm (order ++ pending) ∧
        Settled key dependencies [] final) ∨
      ∃ out stuck, emitFrom key dependencies fuel pending order = .error stuck ∧ stuck ≠ [] ∧
        (out ++ stuck).Perm (order ++ pending) ∧ ∀ item ∈ stuck, ∃ dependency ∈ dependencies item,
          dependency ∉ out.map key := by
  induction fuel generalizing pending order with
  | zero =>
      cases List.eq_nil_of_length_eq_zero (Nat.le_zero.mp enough)
      exact .inl ⟨order, by unfold emitFrom; rfl, by simp, settled⟩
  | succ fuel ih =>
      cases pending with
      | nil => exact .inl ⟨order, by unfold emitFrom; rfl, by simp, settled⟩
      | cons item items =>
          obtain ⟨ordered, same, waits⟩ :=
            pass_spec key dependencies (item :: items) (order.map key)
          unfold emitFrom
          generalize pass key dependencies (item :: items) (order.map key) = passed at ordered same waits ⊢
          obtain ⟨out, rest⟩ := passed
          simp only at ordered same waits ⊢
          cases out with
          | nil =>
              refine .inr ⟨order, rest, rfl, ?_, same.append_left order, waits⟩
              rintro rfl
              exact absurd same.length_eq (by simp)
          | cons first more =>
              have shorter : rest.length ≤ fuel := by
                have length := same.length_eq
                simp only [List.length_append, List.length_cons] at length enough
                omega
              have grown : Settled key dependencies [] (order ++ first :: more) :=
                settled.append (ordered.mono fun name member => by simpa using member)
              have through : ((order ++ first :: more) ++ rest).Perm (order ++ item :: items) := by
                rw [List.append_assoc]
                exact same.append_left order
              rcases ih shorter grown with
                ⟨final, emitted, permuted, behind⟩ | ⟨out, stuck, failed, some, permuted, waiting⟩
              · exact .inl ⟨final, emitted, permuted.trans through, behind⟩
              · exact .inr ⟨out, stuck, failed, some, permuted.trans through, waiting⟩

variable (key) (dependencies) in
theorem emit_spec (items : List Item) :
    (∃ order, emit key dependencies items = .ok order ∧ order.Perm items ∧
        Settled key dependencies [] order) ∨
      ∃ out stuck, emit key dependencies items = .error stuck ∧ stuck ≠ [] ∧ (out ++ stuck).Perm items ∧
        ∀ item ∈ stuck, ∃ dependency ∈ dependencies item, dependency ∉ out.map key :=
  emitFrom_spec (Nat.le_refl _) trivial

theorem emit_settled {order : List Item} (emitted : emit key dependencies items = .ok order) :
    order.Perm items ∧ Settled key dependencies [] order := by
  rcases emit_spec key dependencies items with
    ⟨other, same, permuted, settled⟩ | ⟨_, _, failed, _⟩
  · cases emitted.symm.trans same
    exact ⟨permuted, settled⟩
  · cases emitted.symm.trans failed

theorem not_self_of_acc {α : Type} {relation : α → α → Prop} {element : α} (accessible : Acc relation element) :
    ¬ relation element element := by
  induction accessible with
  | intro element _ ih => exact fun self => ih element self self

omit [DecidableEq Key] in
theorem acyclic_of_settled {order : List Item} (distinct : (items.map key).Nodup)
    (permuted : order.Perm items) (settled : Settled key dependencies [] order) :
    Acyclic key dependencies items := by
  intro item member cycle
  have accessible := settled.accessible distinct (fun item member => permuted.mem_iff.mp member) nofun item
    (permuted.mem_iff.mpr member)
  have around : Relation.TransGen (fun needed item => Needs key dependencies items item needed) item item :=
    Relation.transGen_swap.mp cycle
  exact not_self_of_acc accessible.transGen around

omit [DecidableEq Key] in
/-- Among finitely many items that need no one but one another, there is a cycle. -/
theorem not_acyclic_of_stuck {stuck : List Item} (some : stuck ≠ []) (among : ∀ item ∈ stuck, item ∈ items)
    (waits : ∀ item ∈ stuck, ∃ needed ∈ stuck, key needed ∈ dependencies item) :
    ¬ Acyclic key dependencies items := by
  intro acyclic
  let Stuck := { item : Item // item ∈ stuck }
  let needs : Stuck → Stuck → Prop := fun needed item =>
    Relation.TransGen (Needs key dependencies items) item.1 needed.1
  have : Finite Stuck := (List.finite_toSet stuck).to_subtype
  have : IsTrans Stuck needs := ⟨fun _ _ _ first second => second.trans first⟩
  have : Std.Irrefl needs := ⟨fun item => acyclic item.1 (among item.1 item.2)⟩
  have wellFounded := Finite.wellFounded_of_trans_of_irrefl needs
  have nobody : ∀ _ : Stuck, False := by
    intro item
    induction item using wellFounded.induction with
    | _ item ih =>
        obtain ⟨needed, still, depends⟩ := waits item.1 item.2
        exact ih ⟨needed, still⟩ (.single ⟨among needed still, depends⟩)
  obtain ⟨first, member⟩ := List.exists_mem_of_ne_nil stuck some
  exact nobody ⟨first, member⟩

/-- The passes emit all items exactly if there is no cycle among them, provided that items
depend on items only. -/
theorem emit_iff_acyclic (distinct : (items.map key).Nodup)
    (closed : ∀ item ∈ items, ∀ dependency ∈ dependencies item, dependency ∈ items.map key) :
    (∃ order, emit key dependencies items = .ok order) ↔ Acyclic key dependencies items := by
  constructor
  · rintro ⟨order, emitted⟩
    obtain ⟨permuted, settled⟩ := emit_settled emitted
    exact acyclic_of_settled distinct permuted settled
  · intro acyclic
    rcases emit_spec key dependencies items with
      ⟨order, emitted, _⟩ | ⟨out, stuck, _, some, permuted, waits⟩
    · exact ⟨order, emitted⟩
    · refine absurd acyclic (not_acyclic_of_stuck some ?_ ?_)
      · exact fun item member => permuted.mem_iff.mp (List.mem_append_right _ member)
      · intro item member
        obtain ⟨dependency, listed, missing⟩ := waits item member
        have among := permuted.mem_iff.mp (List.mem_append_right _ member)
        obtain ⟨needed, known, rfl⟩ := List.mem_map.mp (closed item among dependency listed)
        rcases List.mem_append.mp (permuted.mem_iff.mpr known) with emitted | still
        · exact absurd (List.mem_map_of_mem emitted) missing
        · exact ⟨needed, still, listed⟩

end Emission

end Ordering
