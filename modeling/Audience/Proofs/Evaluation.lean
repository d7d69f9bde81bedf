import Audience.Proofs.Connectives
import Audience.Selection

/-!
# Deciding predicates

## Outcomes in turn

Deciding a predicate on a user either gives an answer or ends with a total that is out of
range.  The parts of a predicate are decided from the left and no further than needed, so
the outcome of a conjunction or disjunction is put together from the outcomes of its parts
in one of two ways.  The constructors of predicates follow these two ways exactly, for
every user and whatever goes wrong.
-/

namespace Audience
namespace Predicate

/-- Both outcomes in turn: the second counts only if the first is true. -/
def both (first second : Except Overflow Bool) : Except Overflow Bool :=
  match first with
  | .ok true => second
  | outcome => outcome

/-- Either outcome in turn: the second counts only if the first is false. -/
def either (first second : Except Overflow Bool) : Except Overflow Bool :=
  match first with
  | .ok false => second
  | outcome => outcome

end Predicate

namespace Connective

open Predicate

def inTurn : Connective -> Except Overflow Bool -> Except Overflow Bool -> Except Overflow Bool
  | conjunction => both
  | disjunction => either

def partsHold : Connective -> User -> List Predicate -> Except Overflow Bool
  | conjunction => allHold
  | disjunction => anyHolds

variable (connective : Connective)

@[simp] theorem inTurn_neutral_left (outcome : Except Overflow Bool) :
    connective.inTurn (.ok connective.neutralAnswer) outcome = outcome := by
  cases connective <;> rfl

@[simp] theorem inTurn_neutral_right (outcome : Except Overflow Bool) :
    connective.inTurn outcome (.ok connective.neutralAnswer) = outcome := by
  rcases outcome with cause | answer
  · cases connective <;> rfl
  · cases connective <;> cases answer <;> rfl

theorem inTurn_of_ne {answer : Bool} (h : answer ≠ connective.neutralAnswer)
    (outcome : Except Overflow Bool) :
    connective.inTurn (.ok answer) outcome = .ok answer := by
  cases connective <;> cases answer <;> first | rfl | exact absurd rfl h

theorem inTurn_assoc (first second third : Except Overflow Bool) :
    connective.inTurn (connective.inTurn first second) third =
      connective.inTurn first (connective.inTurn second third) := by
  rcases first with cause | answer
  · cases connective <;> rfl
  · cases connective <;> cases answer <;> rfl

/-!
## One step
-/

@[simp] theorem neutral_holds (user : User) :
    connective.neutral.holds user = .ok connective.neutralAnswer := by
  cases connective <;> rfl

theorem node_holds (user : User) (parts : List Predicate) :
    (connective.node parts).holds user = connective.partsHold user parts := by
  cases connective <;> rfl

@[simp] theorem partsHold_nil (user : User) :
    connective.partsHold user [] = .ok connective.neutralAnswer := by
  cases connective <;> rfl

@[simp] theorem partsHold_cons (user : User) (p : Predicate) (rest : List Predicate) :
    connective.partsHold user (p :: rest) =
      connective.inTurn (p.holds user) (connective.partsHold user rest) := by
  cases connective <;> rfl

/-!
## Lists of predicates
-/

theorem partsHold_append (user : User) (ps qs : List Predicate) :
    connective.partsHold user (ps ++ qs) =
      connective.inTurn (connective.partsHold user ps) (connective.partsHold user qs) := by
  induction ps with
  | nil =>
      simp
  | cons p rest ih =>
      simp [ih, inTurn_assoc]

private theorem partsHold_partsOf (user : User) (p : Predicate) :
    connective.partsHold user (connective.partsOf p) = p.holds user := by
  by_cases hnode : exists parts, p = connective.node parts
  · rcases hnode with ⟨parts, rfl⟩
    rw [partsOf_node, node_holds]
  · simp [partsOf_of_ne_node connective (not_exists.mp hnode)]

/-!
## Constructors

Neutral elements are left out and nested lists are joined, but no user and no order of
evaluation can tell.
-/

theorem join_holds (user : User) (p q : Predicate) :
    (connective.join p q).holds user = connective.inTurn (p.holds user) (q.holds user) := by
  by_cases hp : p = connective.neutral
  · simp [hp]
  by_cases hq : q = connective.neutral
  · simp [hq]
  rw [join_eq_node connective hp hq, node_holds, partsHold_append, partsHold_partsOf,
    partsHold_partsOf]

end Connective

namespace Predicate

theorem holds_and (user : User) (p q : Predicate) :
    (p.and q).holds user = both (p.holds user) (q.holds user) :=
  Connective.conjunction.join_holds user p q

theorem holds_or (user : User) (p q : Predicate) :
    (p.or q).holds user = either (p.holds user) (q.holds user) :=
  Connective.disjunction.join_holds user p q

@[simp] theorem holds_negate (user : User) (p : Predicate) :
    p.negate.holds user = (p.holds user).map (!·) := by
  unfold Predicate.negate
  split
  · rfl
  · rfl
  · rename_i inner
    rw [holds]
    rcases inner.holds user with cause | answer
    · rfl
    · cases answer <;> rfl
  · rfl

/-!
## The algebra of predicates

The way in which predicates are bracketed leaves no trace in the tree, and with it none in a
plan or in the statement that is written for it.  The order does count for what goes wrong: a
total that is out of range in the second predicate is met only if the first one leaves the
question open.
-/

private theorem inTurn_eq_error (connective : Connective) {first second : Except Overflow Bool}
    {cause : Overflow} :
    connective.inTurn first second = .error cause <->
      first = .error cause ∨
        first = .ok connective.neutralAnswer ∧ second = .error cause := by
  rcases first with found | answer
  · cases connective <;> simp [Connective.inTurn, both, either]
  · cases connective <;> cases answer <;>
      simp [Connective.inTurn, Connective.neutralAnswer, both, either]

/--
Conjunction with everyone and disjunction with nobody are monoids of trees.  For every user
the outcome of a conjunction, a disjunction or a negation is that of its operands in turn, and
it is a total out of range exactly if one is met on the way from the left.
-/
theorem combining_is_exact (p q r : Predicate) :
    ((p.and q).and r = p.and (q.and r) ∧ everyone.and p = p ∧ p.and everyone = p) ∧
      ((p.or q).or r = p.or (q.or r) ∧ nobody.or p = p ∧ p.or nobody = p) ∧
      forall user : User,
        ((p.and q).holds user = both (p.holds user) (q.holds user) ∧
          (p.or q).holds user = either (p.holds user) (q.holds user) ∧
          p.negate.holds user = (p.holds user).map (!·)) ∧
        forall cause : Overflow,
          ((p.and q).holds user = .error cause <->
            p.holds user = .error cause ∨
              p.holds user = .ok true ∧ q.holds user = .error cause) ∧
          ((p.or q).holds user = .error cause <->
            p.holds user = .error cause ∨
              p.holds user = .ok false ∧ q.holds user = .error cause) ∧
          (p.negate.holds user = .error cause <-> p.holds user = .error cause) := by
  have hmonoid (connective : Connective) := And.intro (connective.join_assoc p q r)
    (And.intro (connective.neutral_join p) (connective.join_neutral p))
  refine ⟨hmonoid .conjunction, hmonoid .disjunction, fun user => ?_⟩
  refine ⟨⟨holds_and user p q, holds_or user p q, holds_negate user p⟩, fun cause => ?_⟩
  rw [holds_and, holds_or, holds_negate]
  refine ⟨inTurn_eq_error .conjunction, inTurn_eq_error .disjunction, ?_⟩
  cases p.holds user <;> simp [Except.map]

/-!
## What an outcome tells
-/

/-- The outcome, if it is an answer, tells whether the statement is true. -/
def Tells (outcome : Except Overflow Bool) (statement : Prop) : Prop :=
  forall answer, outcome = .ok answer -> (answer = true <-> statement)

theorem tells_ok {answer : Bool} {statement : Prop} (h : answer = true <-> statement) :
    Tells (.ok answer) statement := by
  intro found hfound
  cases hfound
  exact h

/-- The outcome is an answer, and tells whether the statement is true. -/
def Decides (outcome : Except Overflow Bool) (statement : Prop) : Prop :=
  exists answer, outcome = .ok answer ∧ (answer = true <-> statement)

theorem decides_congr {outcome : Except Overflow Bool} {statement other : Prop}
    (h : Decides outcome statement) (hiff : statement <-> other) : Decides outcome other := by
  rcases h with ⟨answer, houtcome, hanswer⟩
  exact ⟨answer, houtcome, hanswer.trans hiff⟩

theorem Decides.eq_true {outcome : Except Overflow Bool} {statement : Prop}
    (h : Decides outcome statement) (htrue : statement) : outcome = .ok true := by
  rcases h with ⟨answer, houtcome, hanswer⟩
  rw [houtcome, hanswer.mpr htrue]

theorem Decides.eq_false {outcome : Except Overflow Bool} {statement : Prop}
    (h : Decides outcome statement) (hfalse : ¬ statement) : outcome = .ok false := by
  rcases h with ⟨answer, houtcome, hanswer⟩
  rw [houtcome, Bool.eq_false_iff.mpr fun htrue => hfalse (hanswer.mp htrue)]

theorem decides_negate {user : User} {p : Predicate} {statement : Prop}
    (h : Decides (p.holds user) statement) : Decides (p.negate.holds user) (¬ statement) := by
  rcases h with ⟨answer, houtcome, hanswer⟩
  refine ⟨!answer, by rw [holds_negate, houtcome]; rfl, ?_⟩
  rw [Bool.not_eq_true', ← hanswer, Bool.not_eq_true]

theorem tells_self (outcome : Except Overflow Bool) :
    Tells outcome (outcome = .ok true) := by
  intro answer houtcome
  rw [houtcome]
  constructor
  · intro htrue
    rw [htrue]
  · intro hok
    exact Except.ok.inj hok

theorem tells_congr {outcome : Except Overflow Bool} {statement other : Prop}
    (h : Tells outcome statement) (hiff : statement <-> other) :
    Tells outcome other := by
  intro answer houtcome
  exact (h answer houtcome).trans hiff

/-- Once a part is answered, a join says what the other part says or what this one does. -/
private theorem joins_answered (connective : Connective) {met : Bool} {one other : Prop}
    (h : met = true <-> one) :
    connective.Joins one other <->
      if met = connective.neutralAnswer then other else one := by
  cases connective <;> cases met <;> simp_all [Connective.Joins, Connective.neutralAnswer]

theorem tells_inTurn (connective : Connective) {first second : Except Overflow Bool}
    {one other : Prop} (hfirst : Tells first one) (hsecond : Tells second other) :
    Tells (connective.inTurn first second) (connective.Joins one other) := by
  intro answer houtcome
  rcases first with cause | met
  · cases connective <;> cases houtcome
  have hone : met = true <-> one := hfirst met rfl
  by_cases hmet : met = connective.neutralAnswer
  · rw [hmet, Connective.inTurn_neutral_left] at houtcome
    rw [joins_answered connective hone, if_pos hmet]
    exact hsecond answer houtcome
  · rw [Connective.inTurn_of_ne connective hmet] at houtcome
    cases houtcome
    rw [joins_answered connective hone, if_neg hmet]
    exact hone

theorem both_eq_true {first second : Except Overflow Bool} :
    both first second = .ok true <-> first = .ok true ∧ second = .ok true := by
  rcases first with cause | answer
  · simp [both]
  · cases answer <;> simp [both]

/-!
## Chains

Predicates are collected one after the other, from the left.
-/

private theorem foldl_join_holds (connective : Connective) (user : User) (p : Predicate)
    (qs : List Predicate) :
    (qs.foldl connective.join p).holds user =
      connective.inTurn (p.holds user) (connective.partsHold user qs) := by
  induction qs generalizing p with
  | nil =>
      rw [List.foldl_nil, Connective.partsHold_nil, Connective.inTurn_neutral_right]
  | cons q qs ih =>
      rw [List.foldl_cons, ih, Connective.join_holds, Connective.inTurn_assoc,
        Connective.partsHold_cons]

theorem foldl_and_holds (user : User) (p : Predicate) (qs : List Predicate) :
    (qs.foldl Predicate.and p).holds user = both (p.holds user) (allHold user qs) :=
  foldl_join_holds .conjunction user p qs

theorem allHold_eq_true {user : User} (ps : List Predicate) :
    allHold user ps = .ok true <-> forall p, p ∈ ps -> p.holds user = .ok true := by
  induction ps with
  | nil =>
      exact iff_of_true rfl (by simp)
  | cons p ps ih =>
      have hcons : allHold user (p :: ps) = both (p.holds user) (allHold user ps) := rfl
      rw [hcons, both_eq_true, ih, List.forall_mem_cons]

theorem foldl_and_holds_true {user : User} (p : Predicate) (qs : List Predicate) :
    (qs.foldl Predicate.and p).holds user = .ok true <->
      p.holds user = .ok true ∧ forall q, q ∈ qs -> q.holds user = .ok true := by
  rw [foldl_and_holds, both_eq_true, allHold_eq_true]

theorem tells_foldl_join (connective : Connective) {user : User} {p : Predicate}
    {statement : Prop} (h : Tells (p.holds user) statement) (qs : List Predicate) :
    Tells ((qs.foldl connective.join p).holds user)
      (connective.Joins statement
        (connective.Across (fun q => q.holds user = .ok true) qs)) := by
  induction qs generalizing p statement with
  | nil =>
      exact tells_congr h connective.joins_across_nil.symm
  | cons q rest ih =>
      have hstep : Tells ((connective.join p q).holds user)
          (connective.Joins statement (q.holds user = .ok true)) := by
        rw [Connective.join_holds]
        exact tells_inTurn connective h (tells_self _)
      refine tells_congr (ih hstep) ?_
      rw [Connective.across_cons, Connective.joins_assoc]

theorem tells_foldl_and {user : User} {p : Predicate} {statement : Prop}
    (h : Tells (p.holds user) statement) (qs : List Predicate) :
    Tells ((qs.foldl Predicate.and p).holds user)
      (statement ∧ forall q, q ∈ qs -> q.holds user = .ok true) :=
  tells_foldl_join .conjunction h qs

theorem tells_foldl_or {user : User} {p : Predicate} {statement : Prop}
    (h : Tells (p.holds user) statement) (qs : List Predicate) :
    Tells ((qs.foldl Predicate.or p).holds user)
      (statement ∨ exists q, q ∈ qs ∧ q.holds user = .ok true) :=
  tells_foldl_join .disjunction h qs

end Predicate

/-!
# Totals in range

The only figure that can go wrong is the total of completed orders.
-/

/-- The completed orders of the user have a total, from whatever time on they are counted. -/
def User.HasTotals (user : User) : Prop :=
  forall since : Option Time.Timestamp,
    (Decimal.sum? ((user.completedOrders.filter fun order =>
      notBefore since order.createdAt).map (·.total))).isSome

theorem User.figure_isOk {user : User} (h : user.HasTotals) (kind : Figure)
    (since : Option Time.Timestamp) :
    exists value, user.figure kind since = .ok value := by
  cases kind with
  | completedTotal =>
      rcases Option.isSome_iff_exists.mp (h since) with ⟨total, htotal⟩
      exists total.quantity
      simp only [User.figure, htotal]
  | distinctOpens =>
      exact ⟨_, rfl⟩
  | distinctActions =>
      exact ⟨_, rfl⟩
  | completedCount =>
      exact ⟨_, rfl⟩

def User.unknown (id : Int) (subscriptionStatus : String) : User where
  id := id
  firstName := ""
  lastName := ""
  email := ""
  country := ""
  region := ""
  state := ""
  city := ""
  zip := ""
  source := ""
  languageId := none
  subscriptionStatus := subscriptionStatus
  createdAt := .midnight ⟨1970, 1, 1, by decide⟩
  location := none
  phones := []
  fields := []
  actions := []
  openings := []
  orders := []

theorem User.unknown_hasTotals (id : Int) (subscriptionStatus : String) :
    (User.unknown id subscriptionStatus).HasTotals := by
  intro since
  rfl

namespace Predicate

private theorem inTurn_isOk (connective : Connective) {first second : Except Overflow Bool}
    (hfirst : exists answer, first = .ok answer)
    (hsecond : exists answer, second = .ok answer) :
    exists answer, connective.inTurn first second = .ok answer := by
  rcases hfirst with ⟨met, rfl⟩
  by_cases hmet : met = connective.neutralAnswer
  · rw [hmet, Connective.inTurn_neutral_left]
    exact hsecond
  · exact ⟨met, connective.inTurn_of_ne hmet second⟩

mutual

theorem holds_isOk {user : User} (h : user.HasTotals) :
    forall p : Predicate, exists answer, p.holds user = .ok answer
  | .everyone => ⟨_, rfl⟩
  | .nobody => ⟨_, rfl⟩
  | .columnIn _ _ => ⟨_, rfl⟩
  | .columnIs _ _ => ⟨_, rfl⟩
  | .created _ _ => ⟨_, rfl⟩
  | .within _ => ⟨_, rfl⟩
  | .related _ _ => ⟨_, rfl⟩
  | .idIn _ => ⟨_, rfl⟩
  | .like _ _ => ⟨_, rfl⟩
  | .figure kind since comparison bound => by
      rcases User.figure_isOk h kind since with ⟨value, hvalue⟩
      exists comparison.ofQuantities value bound.quantity
      rw [holds, hvalue]
      rfl
  | .all parts => partsHold_isOk .conjunction h parts
  | .any parts => partsHold_isOk .disjunction h parts
  | .not inner => by
      rcases holds_isOk h inner with ⟨answer, hanswer⟩
      exists !answer
      rw [holds, hanswer]
      rfl

theorem partsHold_isOk (connective : Connective) {user : User} (h : user.HasTotals) :
    forall ps : List Predicate, exists answer, connective.partsHold user ps = .ok answer
  | [] => ⟨_, connective.partsHold_nil user⟩
  | p :: rest => by
      rw [Connective.partsHold_cons]
      exact inTurn_isOk connective (holds_isOk h p) (partsHold_isOk connective h rest)

end

end Predicate
end Audience
