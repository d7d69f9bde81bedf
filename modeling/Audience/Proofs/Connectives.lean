import Audience.Predicate

/-!
# Conjunction and disjunction

The two connectives obey the same laws, whether they join statements or predicates: each has
a neutral element, may be bracketed in any way, and has a kind of node that lists its parts.
The laws are stated once, with the connective as a parameter.
-/

namespace Audience

inductive Connective where
  | conjunction
  | disjunction

namespace Connective

/-!
# Statements
-/

/-- The truth of a part after which the other one counts. -/
def neutralAnswer : Connective -> Bool
  | conjunction => true
  | disjunction => false

def Joins : Connective -> Prop -> Prop -> Prop
  | conjunction, one, other => one ∧ other
  | disjunction, one, other => one ∨ other

def Across {α : Type} (connective : Connective) (statement : α -> Prop) (xs : List α) : Prop :=
  match connective with
  | conjunction => forall x, x ∈ xs -> statement x
  | disjunction => exists x, x ∈ xs ∧ statement x

section

variable {α : Type} (connective : Connective) {statement : α -> Prop}

theorem joins_congr {one other one' other' : Prop} (h : one <-> one') (h' : other <-> other') :
    connective.Joins one other <-> connective.Joins one' other' := by
  rw [h, h']

theorem joins_assoc {one other third : Prop} :
    connective.Joins (connective.Joins one other) third <->
      connective.Joins one (connective.Joins other third) := by
  cases connective with
  | conjunction => exact and_assoc
  | disjunction => exact or_assoc

@[simp] theorem joins_neutral {one : Prop} :
    connective.Joins one (connective.neutralAnswer = true) <-> one := by
  cases connective <;> simp [Joins, neutralAnswer]

@[simp] theorem across_nil :
    connective.Across statement [] <-> connective.neutralAnswer = true := by
  cases connective <;> simp [Across, neutralAnswer]

@[simp] theorem across_cons (x : α) (xs : List α) :
    connective.Across statement (x :: xs) <->
      connective.Joins (statement x) (connective.Across statement xs) := by
  cases connective <;> simp [Across, Joins]

theorem joins_across_nil {one : Prop} :
    connective.Joins one (connective.Across statement []) <-> one := by
  simp

theorem across_singleton (x : α) : connective.Across statement [x] <-> statement x := by
  simp

@[simp] theorem across_append (xs ys : List α) :
    connective.Across statement (xs ++ ys) <->
      connective.Joins (connective.Across statement xs) (connective.Across statement ys) := by
  cases connective with
  | conjunction => exact List.forall_mem_append
  | disjunction => simp only [Across, Joins, List.mem_append, or_and_right, exists_or]

end

/-!
# Predicates

A join of two predicates that are not neutral lists the parts of both, and is itself not
neutral.  So the way in which predicates are bracketed leaves no trace in the tree.
-/

def join : Connective -> Predicate -> Predicate -> Predicate
  | conjunction => Predicate.and
  | disjunction => Predicate.or

def neutral : Connective -> Predicate
  | conjunction => .everyone
  | disjunction => .nobody

def node : Connective -> List Predicate -> Predicate
  | conjunction => .all
  | disjunction => .any

def partsOf : Connective -> Predicate -> List Predicate
  | conjunction => Predicate.conjuncts
  | disjunction => Predicate.disjuncts

variable (connective : Connective) {p q : Predicate}

@[simp] theorem neutral_join (p : Predicate) : connective.join connective.neutral p = p := by
  cases connective <;> rfl

@[simp] theorem join_neutral (p : Predicate) : connective.join p connective.neutral = p := by
  cases connective <;> cases p <;> rfl

theorem join_eq_node (hp : p ≠ connective.neutral) (hq : q ≠ connective.neutral) :
    connective.join p q = connective.node (connective.partsOf p ++ connective.partsOf q) := by
  cases connective with
  | conjunction =>
      show p.and q = .all (p.conjuncts ++ q.conjuncts)
      unfold Predicate.and
      split
      · exact absurd rfl hp
      · exact absurd rfl hq
      · rfl
  | disjunction =>
      show p.or q = .any (p.disjuncts ++ q.disjuncts)
      unfold Predicate.or
      split
      · exact absurd rfl hp
      · exact absurd rfl hq
      · rfl

theorem node_ne_neutral (parts : List Predicate) :
    connective.node parts ≠ connective.neutral := by
  cases connective <;> exact Predicate.noConfusion

@[simp] theorem partsOf_node (parts : List Predicate) :
    connective.partsOf (connective.node parts) = parts := by
  cases connective <;> rfl

theorem partsOf_of_ne_node (h : forall parts, p ≠ connective.node parts) :
    connective.partsOf p = [p] := by
  cases connective with
  | conjunction =>
      show p.conjuncts = [p]
      unfold Predicate.conjuncts
      split
      · exact absurd rfl (h _)
      · rfl
  | disjunction =>
      show p.disjuncts = [p]
      unfold Predicate.disjuncts
      split
      · exact absurd rfl (h _)
      · rfl

theorem join_assoc (p q r : Predicate) :
    connective.join (connective.join p q) r = connective.join p (connective.join q r) := by
  by_cases hp : p = connective.neutral
  · simp [hp]
  by_cases hq : q = connective.neutral
  · simp [hq]
  by_cases hr : r = connective.neutral
  · simp [hr]
  -- Neither inner join is neutral, so both sides list the parts of all three.
  have hnode := node_ne_neutral connective
  rw [join_eq_node connective hp hq, join_eq_node connective hq hr,
    join_eq_node connective (hnode _) hr, join_eq_node connective hp (hnode _), partsOf_node,
    partsOf_node, List.append_assoc]

end Connective
end Audience
