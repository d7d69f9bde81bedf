import Audience.Proofs.Evaluation
import Audience.Proofs.TestReading

/-!
# The written condition means the predicate

A predicate is written as a condition that reads as the same combination of the same
leaves: whatever the leaves are taken to be, the condition of the statement is true exactly
if the predicate is and the id is among those that may occur.  Conditions that nothing can
meet, such as a choice from no values, read as false.
-/

namespace Audience
namespace Predicate

/-!
# Combinations of leaves
-/

mutual

def decided (leaf : Predicate -> Bool) : Predicate -> Bool
  | everyone => true
  | nobody => false
  | all parts => allDecided leaf parts
  | any parts => anyDecided leaf parts
  | not inner => !decided leaf inner
  | p => leaf p

def allDecided (leaf : Predicate -> Bool) : List Predicate -> Bool
  | [] => true
  | p :: rest => decided leaf p && allDecided leaf rest

def anyDecided (leaf : Predicate -> Bool) : List Predicate -> Bool
  | [] => false
  | p :: rest => decided leaf p || anyDecided leaf rest

end

def partsDecided : Connective -> (Predicate -> Bool) -> List Predicate -> Bool
  | .conjunction => allDecided
  | .disjunction => anyDecided

theorem partsDecided_nil (connective : Connective) (leaf : Predicate -> Bool) :
    partsDecided connective leaf [] = connective.neutralAnswer := by
  cases connective <;> rfl

theorem partsDecided_eq_true (connective : Connective) (leaf : Predicate -> Bool)
    (parts : List Predicate) :
    partsDecided connective leaf parts = true <->
      connective.Across (fun p => p.decided leaf = true) parts := by
  induction parts with
  | nil =>
      rw [partsDecided_nil, Connective.across_nil]
  | cons p rest ih =>
      rw [Connective.across_cons, ← ih]
      cases connective <;> simp [partsDecided, allDecided, anyDecided, Connective.Joins]

mutual

def leaves : Predicate -> List Predicate
  | everyone => []
  | nobody => []
  | all parts => leavesOfAll parts
  | any parts => leavesOfAll parts
  | not inner => leaves inner
  | p => [p]

def leavesOfAll : List Predicate -> List Predicate
  | [] => []
  | p :: rest => leaves p ++ leavesOfAll rest

end

mutual

theorem holds_decided {user : User} {leaf : Predicate -> Bool} {p : Predicate}
    (h : forall q, q ∈ p.leaves -> q.holds user = .ok (leaf q)) :
    p.holds user = .ok (p.decided leaf) := by
  cases p with
  | everyone =>
      rfl
  | nobody =>
      rfl
  | all parts =>
      exact partsHold_decided .conjunction h
  | any parts =>
      exact partsHold_decided .disjunction h
  | not inner =>
      have hinner : inner.holds user = .ok (inner.decided leaf) := holds_decided h
      rw [holds, hinner]
      rfl
  | _ =>
      exact h _ List.mem_cons_self

theorem partsHold_decided (connective : Connective) {user : User} {leaf : Predicate -> Bool}
    {parts : List Predicate}
    (h : forall q, q ∈ leavesOfAll parts -> q.holds user = .ok (leaf q)) :
    connective.partsHold user parts = .ok (partsDecided connective leaf parts) := by
  cases parts with
  | nil =>
      rw [Connective.partsHold_nil, partsDecided_nil]
  | cons p rest =>
      have hfirst : p.holds user = .ok (p.decided leaf) :=
        holds_decided fun q hq => h q (List.mem_append_left _ hq)
      have hrest : connective.partsHold user rest = .ok (partsDecided connective leaf rest) :=
        partsHold_decided connective fun q hq => h q (List.mem_append_right _ hq)
      rw [Connective.partsHold_cons, hfirst, hrest]
      cases connective <;> simp only [partsDecided, allDecided, anyDecided] <;>
        cases p.decided leaf <;> rfl

end

/-- A leaf that holds of nobody: a choice from an empty list. -/
def isImpossible : Predicate -> Bool
  | columnIn _ [] => true
  | related _ (some []) => true
  | idIn [] => true
  | _ => false

theorem holds_of_isImpossible {p : Predicate} (h : p.isImpossible = true) (user : User) :
    p.holds user = .ok false := by
  cases p with
  | columnIn column values =>
      cases values with
      | nil =>
          rfl
      | cons value values =>
          cases h
  | related relation values =>
      rcases values with _ | values
      · cases h
      · cases values with
        | nil =>
            simp [holds, listed]
        | cons value values =>
            cases h
  | idIn ids =>
      cases ids with
      | nil =>
          rfl
      | cons id ids =>
          cases h
  | _ =>
      cases h

end Predicate

namespace Statement
namespace Reader

open Lexer

def leafUnder (v : List Token -> Bool) (leaf : Predicate) : Bool :=
  !leaf.isImpossible && v (tokens (condition leaf).pieces)

variable {full : Prop}

/-!
# Conditions
-/

def gradeOf : Condition.Binding -> Grade
  | .tight => .operand
  | .loose => .negation
  | .conjunction => .conjunction
  | .disjunction => .disjunction

def ReadsAs (full : Prop) (c : Condition) (truth : (List Token -> Bool) -> Prop) : Prop :=
  Reads full (gradeOf c.binding) (tokens c.pieces) truth

def joinOf : Connective -> Condition -> Condition -> Condition
  | .conjunction => .and
  | .disjunction => .or

theorem gradeOf_joinOf (connective : Connective) (c d : Condition) :
    gradeOf (joinOf connective c d).binding = .ofJoin connective := by
  cases connective <;> rfl

private theorem tokens_joinOf (connective : Connective) (c d : Condition) :
    tokens (joinOf connective c d).pieces =
      tokens (c.enclosed (joinOf connective c d).binding c.pieces) ++
        .word (keywordOf connective).toList :: tokens (d.enclosed .tight d.pieces) := by
  have hor : (Piece.code " OR ").tokens = [.word "OR".toList] := rfl
  cases connective with
  | conjunction =>
      simp [joinOf, Condition.pieces, Condition.binding, keywordOf]
  | disjunction =>
      simp [joinOf, Condition.pieces, Condition.binding, hor, keywordOf]

section

variable {c d : Condition} {truth other : (List Token -> Bool) -> Prop}

theorem reads_enclosed (h : ReadsAs full c truth) (around : Condition.Binding) :
    Reads full (gradeOf around) (tokens (c.enclosed around c.pieces)) truth := by
  unfold Condition.enclosed
  split
  case isTrue hbare =>
    rw [Bool.or_eq_true, beq_iff_eq, beq_iff_eq] at hbare
    unfold ReadsAs at h
    rcases hbare with htight | hsame
    · rw [htight] at h
      exact h.loosen (gradeOf around)
    · rw [hsame] at h
      exact h
  case isFalse =>
    rw [tokens_parenthesized]
    exact h.loosest.parenthesized.loosen (gradeOf around)

theorem ReadsAs.join (connective : Connective) (h : ReadsAs full c truth)
    (h' : ReadsAs full d other) :
    ReadsAs full (joinOf connective c d)
      (fun v => connective.Joins (truth v) (other v)) := by
  have hleft := reads_enclosed h (joinOf connective c d).binding
  have hright := (reads_enclosed h' .tight).loosen (.ofJoin connective)
  unfold ReadsAs
  rw [gradeOf_joinOf] at hleft ⊢
  rw [tokens_joinOf]
  exact hleft.join connective hright

theorem ReadsAs.not (h : ReadsAs full c truth) :
    ReadsAs full (.not c) (fun v => ¬ truth v) := by
  have hnot : (Piece.code "NOT ").tokens = [.word "NOT".toList] := rfl
  unfold ReadsAs
  rw [Condition.pieces, tokens_cons, hnot]
  exact (reads_enclosed h .tight).not

theorem ReadsAs.congr (h : ReadsAs full c truth) (htruth : forall v, truth v <-> other v) :
    ReadsAs full c other :=
  Reads.congr h htruth

theorem readsAs_constant (value : Bool) :
    ReadsAs full (.constant value) (fun _ => value = true) := by
  cases value with
  | true =>
      exact ⟨[.token (.word "TRUE".toList)], Nested.nil.word _, by simp,
        by decide, fun v => Iff.rfl⟩
  | false =>
      exact ⟨[.token (.word "FALSE".toList)], Nested.nil.word _, by simp,
        by decide, fun v => Iff.rfl⟩

theorem readsAs_test {test : Test} (h : IsColumnTest test)
    (hrange : forall field low high, test ≠ .between field low high) :
    ReadsAs full (.test test) (fun v => TestHolds v test) := by
  cases test with
  | between field low high =>
      exact absurd rfl (hrange field low high)
  | _ =>
      exact reads_test h

end

/-!
# Leaves
-/

theorem readsAs_oneOf {operand : Operand} (h : operandItems operand = 2)
    (values : List Literal) :
    ReadsAs full (.test (.oneOf operand values))
      (fun v => values ≠ [] ∧ v (tokens (Test.oneOf operand values).pieces) = true) := by
  have hcolumn : IsColumnTest (.oneOf operand values) := h
  refine (readsAs_test hcolumn (by simp)).congr fun v => ?_
  cases values <;> simp [TestHolds]

theorem readsAs_exists {lookup : Lookup} (hne : lookup.tests ≠ [])
    (h : forall test, test ∈ lookup.tests -> IsColumnTest test) :
    ReadsAs full (.exists lookup)
      (fun v => (forall test, test ∈ lookup.tests -> TestPossible test) ∧
        v (tokens (Condition.exists lookup).pieces) = true) :=
  (reads_exists hne h).congr fun _ => and_comm

theorem columnOperand_items (column : Column) : operandItems (columnOperand column) = 2 := by
  cases column <;> rfl

private theorem valueTests_column {operand : Operand} (h : operandItems operand = 2)
    (values : Option (List String)) :
    forall test, test ∈ valueTests operand values -> IsColumnTest test := by
  intro test htest
  cases values with
  | none =>
      cases htest
  | some values =>
      rw [List.mem_singleton.mp htest]
      exact h

private theorem valueTests_possible (operand : Operand) (values : Option (List String)) :
    (forall test, test ∈ valueTests operand values -> TestPossible test) <->
      values ≠ some [] := by
  rcases values with _ | values
  · simp [valueTests]
  · cases values <;> simp [valueTests, TestPossible]

theorem relatedLookup_tests (relation : Relation) (values : Option (List String)) :
    (relatedLookup relation values).tests ≠ [] ∧
      (forall test, test ∈ (relatedLookup relation values).tests -> IsColumnTest test) ∧
        ((forall test, test ∈ (relatedLookup relation values).tests -> TestPossible test) <->
          values ≠ some []) := by
  have hcolumn := fun operand h => @valueTests_column operand h values
  have hpossible := fun operand => valueTests_possible operand values
  cases relation with
  | userField name =>
      refine ⟨by simp [relatedLookup], ?_, ?_⟩
      · simpa [relatedLookup, ownedBy, IsColumnTest, operandItems] using hcolumn _ rfl
      · simpa [relatedLookup, ownedBy, TestPossible] using hpossible _
  | _ =>
      refine ⟨by simp [relatedLookup], ?_, ?_⟩
      · simpa [relatedLookup, ownedBy, IsColumnTest] using hcolumn _ rfl
      · simpa [relatedLookup, ownedBy, TestPossible] using hpossible _

theorem figureLookup_tests (figure : Figure) (since : Option Time.Timestamp) :
    (figureLookup figure since).tests ≠ [] ∧
      forall test, test ∈ (figureLookup figure since).tests -> IsColumnTest test := by
  cases figure <;> cases since <;>
    simp [figureLookup, sinceTests, ownedBy, IsColumnTest, operandItems]

theorem readsAs_columnIn (column : Column) (values : List String) :
    ReadsAs full (condition (.columnIn column values))
      (fun v => leafUnder v (.columnIn column values) = true) := by
  refine (readsAs_oneOf (columnOperand_items column) (values.map .text)).congr fun v => ?_
  cases values <;> simp [leafUnder, Predicate.isImpossible, condition, Condition.pieces]

theorem readsAs_idIn (ids : List Int) :
    ReadsAs full (condition (.idIn ids)) (fun v => leafUnder v (.idIn ids) = true) := by
  cases ids with
  | nil =>
      exact readsAs_constant false
  | cons id ids =>
      have hcolumn : operandItems (.field userId) = 2 := rfl
      refine (readsAs_oneOf hcolumn ((id :: ids).map .integer)).congr fun v => ?_
      simp [leafUnder, Predicate.isImpossible, condition, Condition.pieces]

theorem readsAs_related (relation : Relation) (values : Option (List String)) :
    ReadsAs full (condition (.related relation values))
      (fun v => leafUnder v (.related relation values) = true) := by
  rcases relatedLookup_tests relation values with ⟨hne, hcolumn, hpossible⟩
  refine (readsAs_exists hne hcolumn).congr fun v => ?_
  rw [hpossible]
  rcases values with _ | values
  · simp [leafUnder, Predicate.isImpossible, condition]
  · cases values <;> simp [leafUnder, Predicate.isImpossible, condition]

theorem readsAs_within (box : Geo.Box) :
    ReadsAs full (condition (.within box)) (fun v => leafUnder v (.within box) = true) := by
  have hcolumn : forall test, test ∈ (locationLookup box).tests -> IsColumnTest test := by
    simp [locationLookup, ownedBy, IsColumnTest]
  refine (readsAs_exists (by simp [locationLookup]) hcolumn).congr fun v => ?_
  simp [leafUnder, Predicate.isImpossible, condition, locationLookup, ownedBy, TestPossible]

theorem readsAs_figure (kind : Figure) (since : Option Time.Timestamp)
    (comparison : Comparison) (bound : Bound) :
    ReadsAs full (condition (.figure kind since comparison bound))
      (fun v => leafUnder v (.figure kind since comparison bound) = true) := by
  rcases figureLookup_tests kind since with ⟨hne, hcolumn⟩
  exact reads_figure hne hcolumn comparison (boundLiteral bound)

/-!
# Predicates
-/

private theorem readsAs_foldl (connective : Connective) {c : Condition}
    {truth : (List Token -> Bool) -> Prop} (h : ReadsAs full c truth) {parts : List Predicate}
    (hparts : forall p, p ∈ parts ->
      ReadsAs full (condition p) (fun v => p.decided (leafUnder v) = true)) :
    ReadsAs full ((conditions parts).foldl (joinOf connective) c)
      (fun v => connective.Joins (truth v)
        (connective.Across (fun p => p.decided (leafUnder v) = true) parts)) := by
  induction parts generalizing c truth with
  | nil =>
      exact h.congr fun v => connective.joins_across_nil.symm
  | cons p rest ih =>
      have hfirst := h.join connective (hparts p List.mem_cons_self)
      have hrest := ih hfirst fun q hq => hparts q (List.mem_cons_of_mem p hq)
      exact hrest.congr fun v => by rw [Connective.across_cons, Connective.joins_assoc]

private theorem readsAs_node (connective : Connective) {parts : List Predicate}
    (hparts : forall p, p ∈ parts ->
      ReadsAs full (condition p) (fun v => p.decided (leafUnder v) = true)) :
    ReadsAs full (chained (joinOf connective) connective.neutralAnswer (conditions parts))
      (fun v => Predicate.partsDecided connective (leafUnder v) parts = true) := by
  simp only [Predicate.partsDecided_eq_true]
  cases parts with
  | nil =>
      exact (readsAs_constant _).congr fun v => connective.across_nil.symm
  | cons p rest =>
      have hrest := readsAs_foldl connective (hparts p List.mem_cons_self) fun q hq =>
        hparts q (List.mem_cons_of_mem p hq)
      exact hrest.congr fun v => by rw [Connective.across_cons]

mutual

/-- The condition of a predicate reads as the combination of its leaves. -/
theorem readsAs_condition (p : Predicate) :
    ReadsAs full (condition p) (fun v => p.decided (leafUnder v) = true) := by
  cases p with
  | everyone =>
      exact readsAs_constant true
  | nobody =>
      exact readsAs_constant false
  | columnIn column values =>
      exact readsAs_columnIn column values
  | columnIs column value =>
      have hcolumn : IsColumnTest (.equals (columnOperand column) (.text value)) :=
        columnOperand_items column
      exact readsAs_test hcolumn (by simp)
  | created comparison time =>
      have hcolumn : IsColumnTest
          (.compare (.field (userField "created_at")) comparison (timeLiteral time)) := rfl
      exact readsAs_test hcolumn (by simp)
  | within box =>
      exact readsAs_within box
  | related relation values =>
      exact readsAs_related relation values
  | idIn ids =>
      exact readsAs_idIn ids
  | figure kind since comparison bound =>
      exact readsAs_figure kind since comparison bound
  | like target pattern =>
      have hcolumn : IsColumnTest
          (.like (.lower (searchOperand target)) (Text.lowered pattern)) := rfl
      exact readsAs_test hcolumn (by simp)
  | all parts =>
      exact readsAs_node .conjunction (readsAs_conditions parts)
  | any parts =>
      exact readsAs_node .disjunction (readsAs_conditions parts)
  | not inner =>
      exact (readsAs_condition inner).not.congr fun v => by simp [Predicate.decided]

theorem readsAs_conditions (parts : List Predicate) :
    forall p, p ∈ parts ->
      ReadsAs full (condition p) (fun v => p.decided (leafUnder v) = true) := by
  cases parts with
  | nil =>
      intro p hp
      cases hp
  | cons first rest =>
      have hfirst := readsAs_condition first
      intro p hp
      rcases List.mem_cons.mp hp with rfl | hp
      · exact hfirst
      · exact readsAs_conditions rest p hp

end

end Reader
end Statement
end Audience
