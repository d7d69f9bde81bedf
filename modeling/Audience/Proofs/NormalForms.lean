import Audience.Proofs.Connectives

/-!
# Normal forms of predicates

## Parts of a node
-/

namespace Audience

/-- The predicate may be a part of a node: it is neither neutral nor such a node itself. -/
structure Connective.Admits (connective : Connective) (p : Predicate) : Prop where
  ne_neutral : p ≠ connective.neutral
  ne_node : forall parts, p ≠ connective.node parts

namespace Predicate

open Connective

variable {p q : Predicate}

/-!
## Normal forms

Whatever stands at a place of a tree is either the whole tree or stands in one of its operands.
A tree is in normal form if a conjunction or a disjunction in it has at least two parts, each
of which may be a part of it, and a negation stands over what it cannot take back or turn
around.
-/

/-- The predicates from which a predicate is put together at its root. -/
def operands : Predicate -> List Predicate
  | all parts => parts
  | any parts => parts
  | not inner => [inner]
  | _ => []

inductive StandsIn (q : Predicate) : Predicate -> Prop where
  | root : StandsIn q q
  | inside {p operand : Predicate} (hoperand : operand ∈ p.operands)
      (h : StandsIn q operand) : StandsIn q p

/-- The predicate may stand under a negation. -/
structure IsNegatable (p : Predicate) : Prop where
  ne_everyone : p ≠ everyone
  ne_nobody : p ≠ nobody
  ne_not : forall inner, p ≠ not inner

structure IsNormal (p : Predicate) : Prop where
  conjunctions : forall parts, StandsIn (all parts) p ->
    2 <= parts.length ∧ forall part, part ∈ parts -> conjunction.Admits part
  disjunctions : forall parts, StandsIn (any parts) p ->
    2 <= parts.length ∧ forall part, part ∈ parts -> disjunction.Admits part
  negations : forall inner, StandsIn (not inner) p -> inner.IsNegatable

def HasNormalRoot : Predicate -> Prop
  | all parts => 2 <= parts.length ∧ forall part, part ∈ parts -> conjunction.Admits part
  | any parts => 2 <= parts.length ∧ forall part, part ∈ parts -> disjunction.Admits part
  | not inner => inner.IsNegatable
  | _ => True

private theorem isNormal_iff_roots : p.IsNormal <-> forall q, StandsIn q p -> q.HasNormalRoot := by
  constructor
  · intro h q hq
    cases q with
    | all parts => exact h.conjunctions parts hq
    | any parts => exact h.disjunctions parts hq
    | not inner => exact h.negations inner hq
    | _ => trivial
  · intro h
    constructor
    · exact fun parts hparts => h (all parts) hparts
    · exact fun parts hparts => h (any parts) hparts
    · exact fun inner hinner => h (not inner) hinner

theorem isNormal_iff :
    p.IsNormal <-> p.HasNormalRoot ∧ forall operand, operand ∈ p.operands -> operand.IsNormal := by
  simp only [isNormal_iff_roots]
  constructor
  · intro h
    constructor
    · exact h p StandsIn.root
    · intro operand hoperand q hq
      exact h q (StandsIn.inside hoperand hq)
  · intro h q hq
    cases hq with
    | root =>
        exact h.left
    | inside hoperand hq =>
        exact h.right _ hoperand q hq

theorem isNormal_of_operands_eq_nil (hroot : p.HasNormalRoot) (h : p.operands = []) :
    p.IsNormal := by
  rw [isNormal_iff, h]
  constructor
  · exact hroot
  · intro operand hoperand
    cases hoperand

theorem isNormal_everyone : everyone.IsNormal :=
  isNormal_of_operands_eq_nil trivial rfl

theorem isNormal_nobody : nobody.IsNormal :=
  isNormal_of_operands_eq_nil trivial rfl

theorem isNormal_node_iff (connective : Connective) {parts : List Predicate} :
    (connective.node parts).IsNormal <->
      2 <= parts.length ∧
        forall part, part ∈ parts -> connective.Admits part ∧ part.IsNormal := by
  have hroot : (connective.node parts).HasNormalRoot <->
      2 <= parts.length ∧ forall part, part ∈ parts -> connective.Admits part := by
    cases connective <;> exact Iff.rfl
  have hoperands : (connective.node parts).operands = parts := by
    cases connective <;> rfl
  rw [isNormal_iff, hroot, hoperands, and_assoc]
  constructor
  · intro h
    rcases h with ⟨hlength, hadmits, hnormal⟩
    exact ⟨hlength, fun part hpart => ⟨hadmits part hpart, hnormal part hpart⟩⟩
  · intro h
    rcases h with ⟨hlength, h⟩
    exact ⟨hlength, fun part hpart => (h part hpart).left, fun part hpart => (h part hpart).right⟩

theorem isNormal_not_iff : (not p).IsNormal <-> p.IsNegatable ∧ p.IsNormal := by
  rw [isNormal_iff, HasNormalRoot, operands, List.forall_mem_singleton]

/-!
## Operations

Two predicates that are not neutral contribute at least one part each to a node, and every
part they contribute may stand there.  So joining keeps normal forms, and negating does too.
-/

private theorem isNormal_partsOf (connective : Connective) (h : p.IsNormal)
    (hne : p ≠ connective.neutral) :
    1 <= (connective.partsOf p).length ∧
      forall part, part ∈ connective.partsOf p -> connective.Admits part ∧ part.IsNormal := by
  by_cases hnode : exists parts, p = connective.node parts
  · rcases hnode with ⟨parts, rfl⟩
    rw [isNormal_node_iff] at h
    rw [partsOf_node]
    exact ⟨Nat.le_of_succ_le h.left, h.right⟩
  · have hother : forall parts, p ≠ connective.node parts := not_exists.mp hnode
    rw [partsOf_of_ne_node connective hother, List.forall_mem_singleton]
    exact ⟨Nat.le_refl 1, ⟨hne, hother⟩, h⟩

theorem isNormal_join (connective : Connective) (hp : p.IsNormal) (hq : q.IsNormal) :
    (connective.join p q).IsNormal := by
  by_cases hpNeutral : p = connective.neutral
  · rw [hpNeutral, neutral_join]
    exact hq
  by_cases hqNeutral : q = connective.neutral
  · rw [hqNeutral, join_neutral]
    exact hp
  have hpParts := isNormal_partsOf connective hp hpNeutral
  have hqParts := isNormal_partsOf connective hq hqNeutral
  rw [join_eq_node connective hpNeutral hqNeutral, isNormal_node_iff, List.length_append,
    List.forall_mem_append]
  exact ⟨Nat.add_le_add hpParts.left hqParts.left, hpParts.right, hqParts.right⟩

theorem negate_of_isNegatable (h : p.IsNegatable) : p.negate = not p := by
  unfold negate
  split
  · exact absurd rfl h.ne_everyone
  · exact absurd rfl h.ne_nobody
  · exact absurd rfl (h.ne_not _)
  · rfl

theorem isNormal_negate (h : p.IsNormal) : p.negate.IsNormal := by
  unfold negate
  split
  · exact isNormal_nobody
  · exact isNormal_everyone
  · exact (isNormal_not_iff.mp h).right
  · rename_i hne_everyone hne_nobody hne_not
    exact isNormal_not_iff.mpr ⟨⟨hne_everyone, hne_nobody, hne_not⟩, h⟩

theorem negate_negate (h : p.IsNormal) : p.negate.negate = p := by
  cases p with
  | not inner => exact negate_of_isNegatable (isNormal_not_iff.mp h).left
  | _ => rfl

/-!
## Reachable trees

The predicates that the operations can make are just those in normal form: a node is made by
joining its parts one by one.
-/

/-- The predicate asks one question. -/
def IsLeaf : Predicate -> Prop
  | everyone | nobody | all _ | any _ | not _ => False
  | _ => True

/-- The predicate is made of leaves and the two constants by the operations, in any order. -/
inductive Combined : Predicate -> Prop where
  | everyone : Combined everyone
  | nobody : Combined nobody
  | leaf {p : Predicate} (h : p.IsLeaf) : Combined p
  | and {p q : Predicate} (hp : Combined p) (hq : Combined q) : Combined (p.and q)
  | or {p q : Predicate} (hp : Combined p) (hq : Combined q) : Combined (p.or q)
  | negate {p : Predicate} (h : Combined p) : Combined p.negate
  | toggled {p : Predicate} (included : Bool) (h : Combined p) : Combined (p.toggled included)

private theorem isNormal_leaf (h : p.IsLeaf) : p.IsNormal := by
  cases p <;> first | exact h.elim | exact isNormal_of_operands_eq_nil trivial rfl

theorem Combined.isNormal (h : Combined p) : p.IsNormal := by
  induction h with
  | everyone => exact isNormal_everyone
  | nobody => exact isNormal_nobody
  | leaf h => exact isNormal_leaf h
  | and hp hq ihp ihq => exact isNormal_join conjunction ihp ihq
  | or hp hq ihp ihq => exact isNormal_join disjunction ihp ihq
  | negate h ih => exact isNormal_negate ih
  | toggled included h ih =>
      cases included with
      | true => exact ih
      | false => exact isNormal_negate ih

theorem Combined.join (connective : Connective) (hp : Combined p) (hq : Combined q) :
    Combined (connective.join p q) := by
  cases connective with
  | conjunction => exact Combined.and hp hq
  | disjunction => exact Combined.or hp hq

theorem combined_node_append (connective : Connective) {front rest : List Predicate}
    (hfront : Combined (connective.node front))
    (hrest : forall part, part ∈ rest -> connective.Admits part ∧ Combined part) :
    Combined (connective.node (front ++ rest)) := by
  induction rest generalizing front with
  | nil =>
      rw [List.append_nil]
      exact hfront
  | cons part rest ih =>
      rw [List.forall_mem_cons] at hrest
      rcases hrest with ⟨⟨hadmits, hpart⟩, hrest⟩
      have hnext : connective.join (connective.node front) part =
          connective.node (front ++ [part]) := by
        rw [join_eq_node connective (node_ne_neutral connective front) hadmits.ne_neutral,
          partsOf_node, partsOf_of_ne_node connective hadmits.ne_node]
      have hcombined := ih (hnext ▸ Combined.join connective hfront hpart) hrest
      rwa [List.append_assoc] at hcombined

private theorem combined_node (connective : Connective) {parts : List Predicate}
    (hlength : 2 <= parts.length)
    (hparts : forall part, part ∈ parts -> connective.Admits part ∧ Combined part) :
    Combined (connective.node parts) := by
  match parts with
  | first :: second :: rest =>
      rw [List.forall_mem_cons, List.forall_mem_cons] at hparts
      rcases hparts with ⟨⟨hfirst, hfirstCombined⟩, ⟨hsecond, hsecondCombined⟩, hrest⟩
      have hpair : connective.join first second = connective.node [first, second] := by
        rw [join_eq_node connective hfirst.ne_neutral hsecond.ne_neutral,
          partsOf_of_ne_node connective hfirst.ne_node,
          partsOf_of_ne_node connective hsecond.ne_node]
        rfl
      exact combined_node_append connective
        (hpair ▸ Combined.join connective hfirstCombined hsecondCombined) hrest

mutual

theorem combined_of_isNormal : forall p : Predicate, p.IsNormal -> Combined p
  | .everyone, _ => Combined.everyone
  | .nobody, _ => Combined.nobody
  | .all parts, h => by
      rcases (isNormal_node_iff conjunction).mp h with ⟨hlength, hparts⟩
      have hcombined := combined_of_each_isNormal parts fun part hpart => (hparts part hpart).right
      exact combined_node conjunction hlength fun part hpart =>
        ⟨(hparts part hpart).left, hcombined part hpart⟩
  | .any parts, h => by
      rcases (isNormal_node_iff disjunction).mp h with ⟨hlength, hparts⟩
      have hcombined := combined_of_each_isNormal parts fun part hpart => (hparts part hpart).right
      exact combined_node disjunction hlength fun part hpart =>
        ⟨(hparts part hpart).left, hcombined part hpart⟩
  | .not inner, h => by
      rcases isNormal_not_iff.mp h with ⟨hnegatable, hinner⟩
      rw [← negate_of_isNegatable hnegatable]
      exact Combined.negate (combined_of_isNormal inner hinner)
  | .columnIn _ _, _ | .columnIs _ _, _ | .created _ _, _ | .within _, _ | .related _ _, _
  | .idIn _, _ | .figure _ _ _ _, _ | .like _ _, _ => Combined.leaf trivial

theorem combined_of_each_isNormal :
    forall ps : List Predicate, (forall p, p ∈ ps -> p.IsNormal) -> forall p, p ∈ ps -> Combined p
  | [], _ => by
      intro p hp
      cases hp
  | p :: rest, h => by
      rw [List.forall_mem_cons] at h
      rw [List.forall_mem_cons]
      exact ⟨combined_of_isNormal p h.left, combined_of_each_isNormal rest h.right⟩

end

/--
The operations lead from leaves and the two constants to the predicates in normal form and to
no others.  So a second negation takes back the first one, and a second exclusion does too.
-/
theorem combined_stays_normal (p : Predicate) :
    (Combined p <-> p.IsNormal) ∧
      (Combined p -> p.negate.negate = p ∧ (p.toggled false).toggled false = p) := by
  constructor
  · constructor
    · intro h
      exact h.isNormal
    · intro h
      exact combined_of_isNormal p h
  · intro h
    have hnegated := negate_negate h.isNormal
    exact ⟨hnegated, hnegated⟩

/-- A tree that no operations make may change under two negations. -/
example : (not everyone).negate.negate = nobody := rfl

end Predicate
end Audience
