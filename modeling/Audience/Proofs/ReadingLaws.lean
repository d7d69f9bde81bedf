import Audience.Proofs.Reading
import Mathlib.Data.List.Chain

/-!
# Laws of reading

How sequences of tokens are read follows from how their parts are read.  A sequence has a
grade, which says how tightly it holds together: an operand keeps its meaning next to any
connective, a negation next to `AND` and `OR`, a conjunction next to `OR` only.  Sequences
of a tighter grade are sequences of a looser one, parentheses make an operand of anything,
and each connective takes operands of its grades.
-/

namespace Audience
namespace Statement
namespace Reader

/-!
# Grouped tokens
-/

/-- Tokens with balanced parentheses and their items.  If `full`, no pair of parentheses is
empty. -/
inductive Nested (full : Prop) : List Token -> List Item -> Prop where
  | nil : Nested full [] []
  | token {t : Token} {ts : List Token} {items : List Item} (hopen : t ≠ opening)
      (hclose : t ≠ closing) (rest : Nested full ts items) :
      Nested full (t :: ts) (.token t :: items)
  | group {ts us : List Token} {inner items : List Item} (hfull : full -> inner ≠ [])
      (h : Nested full ts inner) (rest : Nested full us items) :
      Nested full (opening :: ts ++ closing :: us) (.ofGroup inner :: items)

variable {full : Prop}

theorem Nested.word {ts : List Token} {xs : List Item} (letters : List Char)
    (h : Nested full ts xs) :
    Nested full (.word letters :: ts) (.token (.word letters) :: xs) :=
  .token Token.noConfusion Token.noConfusion h

theorem Nested.append {ts us : List Token} {xs ys : List Item} (h : Nested full ts xs)
    (h' : Nested full us ys) :
    Nested full (ts ++ us) (xs ++ ys) := by
  induction h with
  | nil =>
      exact h'
  | token hopen hclose rest ih =>
      exact .token hopen hclose ih
  | group hfull hinner rest ihInner ih =>
      rw [List.append_assoc]
      exact .group hfull hinner ih

theorem Nested.single_group {ts : List Token} {xs : List Item} (h : Nested full ts xs)
    (hne : xs ≠ []) :
    Nested full (opening :: ts ++ [closing]) [.ofGroup xs] :=
  .group (fun _ => hne) h .nil

theorem Nested.flat_eq {ts : List Token} {xs : List Item} (h : Nested full ts xs) :
    flat xs = ts := by
  induction h with
  | nil =>
      rfl
  | token hopen hclose rest ih =>
      unfold flat at ih ⊢
      rw [List.flatMap_cons, ih]
      rfl
  | group hfull hinner rest ihInner ih =>
      unfold flat at ih ⊢
      rw [List.flatMap_cons, ih, Item.ofGroup, Item.tokens, ihInner]
      simp

theorem Nested.push_eq {ts : List Token} {xs : List Item} (h : Nested full ts xs)
    (groups : Groups) :
    ts.foldl Groups.push groups = ⟨xs.reverse ++ groups.inner, groups.outer⟩ := by
  induction h generalizing groups with
  | nil =>
      rfl
  | token hopen hclose rest ih =>
      rw [List.foldl_cons, ih, Groups.push, if_neg (by simpa using hopen),
        if_neg (by simpa using hclose)]
      simp
  | group hfull hinner rest ihInner ih =>
      have hopen : groups.push opening = ⟨[], groups.inner :: groups.outer⟩ := rfl
      rw [List.cons_append, List.foldl_cons, List.foldl_append, hopen, ihInner,
        List.foldl_cons, ih]
      simp [Groups.push, opening, closing]

theorem Nested.grouped_eq {ts : List Token} {xs : List Item} (h : Nested full ts xs) :
    grouped ts = xs := by
  rw [grouped, h.push_eq]
  simp

/-- No opening parenthesis is followed by a closing one. -/
def Filled (ts : List Token) : Prop :=
  ts.IsChain fun t u => ¬ (t = opening ∧ u = closing)

private theorem Nested.head_ne_closing {ts : List Token} {xs : List Item} (h : Nested full ts xs)
    {t : Token} (ht : ts.head? = some t) :
    t ≠ closing := by
  cases h with
  | nil =>
      cases ht
  | token hopen hclose rest =>
      cases ht
      exact hclose
  | group hfull hinner rest =>
      cases ht
      decide

private theorem Nested.last_ne_opening {ts : List Token} {xs : List Item} (h : Nested full ts xs)
    {t : Token} (ht : ts.getLast? = some t) :
    t ≠ opening := by
  induction h with
  | nil =>
      cases ht
  | @token u us _ hopen hclose rest ih =>
      cases us with
      | nil =>
          cases ht
          exact hopen
      | cons v us =>
          rw [List.getLast?_cons_cons] at ht
          exact ih ht
  | @group _ us _ _ hfull hinner rest ihInner ih =>
      cases us with
      | nil =>
          rw [List.getLast?_append] at ht
          cases ht
          decide
      | cons v us =>
          rw [List.getLast?_append, List.getLast?_cons_cons] at ht
          cases hlast : (v :: us).getLast? with
          | none =>
              simp at hlast
          | some w =>
              rw [hlast] at ht ih
              cases ht
              exact ih rfl

theorem Nested.filled {ts : List Token} {xs : List Item} (h : Nested True ts xs) :
    Filled ts := by
  unfold Filled
  induction h with
  | nil =>
      exact .nil
  | token hopen hclose rest ih =>
      refine List.isChain_cons.mpr ⟨?_, ih⟩
      intro u hu h
      rcases h with ⟨rfl, _⟩
      exact hopen rfl
  | @group ts us inner items hfull hinner rest ihInner ih =>
      have hclosing : (closing :: us).IsChain fun t u => ¬ (t = opening ∧ u = closing) := by
        refine List.isChain_cons.mpr ⟨?_, ih⟩
        intro u hu h
        rcases h with ⟨heq, _⟩
        cases heq
      rw [List.cons_append]
      refine List.isChain_cons.mpr ⟨?_, List.isChain_append.mpr ⟨ihInner, hclosing, ?_⟩⟩
      · intro u hu h
        rcases h with ⟨_, rfl⟩
        cases ts with
        | nil =>
            cases hinner
            exact hfull trivial rfl
        | cons v ts =>
            cases hu
            exact hinner.head_ne_closing rfl rfl
      · intro t ht u hu h
        rcases h with ⟨rfl, _⟩
        exact hinner.last_ne_opening ht rfl

theorem Nested.of_filled {ts : List Token} {xs : List Item} (h : Nested False ts xs)
    (hfilled : Filled ts) :
    Nested full ts xs := by
  unfold Filled at hfilled
  induction h with
  | nil =>
      exact .nil
  | token hopen hclose rest ih =>
      exact .token hopen hclose (ih (List.isChain_cons.mp hfilled).2)
  | @group ts us inner items hfull hinner rest ihInner ih =>
      rw [List.cons_append] at hfilled
      have hparts := List.isChain_append.mp (List.isChain_cons.mp hfilled).2
      refine .group ?_ (ihInner hparts.1) (ih (List.isChain_cons.mp hparts.2.1).2)
      intro _ h
      rcases h with rfl
      cases hinner
      exact (List.isChain_cons.mp hfilled).1 closing rfl ⟨rfl, rfl⟩

/-!
# Cutting at keywords
-/

/-- None of the items is one of these keywords. -/
def Without (keywords : List String) (items : List Item) : Prop :=
  forall item, item ∈ items -> forall keyword, keyword ∈ keywords ->
    isKeyword keyword item = false

instance (keywords : List String) (items : List Item) : Decidable (Without keywords items) :=
  inferInstanceAs (Decidable (forall item, item ∈ items ->
    forall keyword, keyword ∈ keywords -> isKeyword keyword item = false))

theorem without_nil (keywords : List String) : Without keywords [] := by
  intro item hitem
  cases hitem

theorem Without.append {keywords : List String} {xs ys : List Item} (hx : Without keywords xs)
    (hy : Without keywords ys) :
    Without keywords (xs ++ ys) := by
  intro item hitem
  rcases List.mem_append.mp hitem with hitem | hitem
  · exact hx item hitem
  · exact hy item hitem

theorem Without.cons {keywords : List String} {item : Item} {items : List Item}
    (hitem : forall keyword, keyword ∈ keywords -> isKeyword keyword item = false)
    (h : Without keywords items) :
    Without keywords (item :: items) := by
  intro other hother
  rcases List.mem_cons.mp hother with rfl | hother
  · exact hitem
  · exact h other hother

theorem Without.tail {keywords : List String} {item : Item} {items : List Item}
    (h : Without keywords (item :: items)) :
    Without keywords items := by
  intro other hother
  exact h other (List.mem_cons_of_mem item hother)

theorem Without.weaken {keywords fewer : List String} {items : List Item}
    (h : Without keywords items) (hsub : fewer ⊆ keywords) :
    Without fewer items := by
  intro item hitem keyword hkeyword
  exact h item hitem keyword (hsub hkeyword)

theorem extendFirst_append (item : Item) {parts : List (List Item)} (hne : parts ≠ [])
    (others : List (List Item)) :
    extendFirst item (parts ++ others) = extendFirst item parts ++ others := by
  cases parts with
  | nil =>
      exact absurd rfl hne
  | cons part parts =>
      rfl

theorem cut_ne_nil (keyword : String) (inRange : Bool) (items : List Item) :
    cut keyword inRange items ≠ [] := by
  cases items with
  | nil =>
      simp [cut]
  | cons item items =>
      rw [cut]
      split
      · simp
      · cases cut keyword ((inRange || isKeyword "BETWEEN" item) && !isKeyword "AND" item)
            items <;>
          simp [extendFirst]

/-- A keyword that belongs to no range parts what stands before it from what follows. -/
theorem cut_append {keyword : String} {xs : List Item} (hx : Without ["BETWEEN"] xs)
    {item : Item} (hitem : isKeyword keyword item = true) (ys : List Item) :
    cut keyword false (xs ++ item :: ys) = cut keyword false xs ++ cut keyword false ys := by
  induction xs with
  | nil =>
      have hstep : cut keyword false (item :: ys) = [] :: cut keyword false ys := by
        rw [cut, hitem]
        rfl
      exact hstep
  | cons x xs ih =>
      have hbetween : isKeyword "BETWEEN" x = false := hx x List.mem_cons_self _ (by simp)
      rw [List.cons_append, cut, cut, hbetween]
      simp only [Bool.false_and, Bool.or_false, Bool.not_false, Bool.and_true]
      rw [ih hx.tail]
      split
      · rfl
      · exact extendFirst_append x (cut_ne_nil keyword false xs) _

theorem cut_of_without {keyword : String} {items : List Item} (h : Without [keyword] items)
    (inRange : Bool) :
    cut keyword inRange items = [items] := by
  induction items generalizing inRange with
  | nil =>
      rfl
  | cons item items ih =>
      have hitem : isKeyword keyword item = false := h item List.mem_cons_self _ (by simp)
      rw [cut, hitem]
      simp [ih h.tail, extendFirst]

private theorem cut_before {items : List Item} (h : Without ["AND", "BETWEEN"] items)
    (inRange : Bool)
    (rest : List Item) :
    cut "AND" inRange (items ++ rest) = items.foldr extendFirst (cut "AND" inRange rest) := by
  induction items with
  | nil =>
      rfl
  | cons item items ih =>
      have hand : isKeyword "AND" item = false := h item List.mem_cons_self _ (by simp)
      have hbetween : isKeyword "BETWEEN" item = false := h item List.mem_cons_self _ (by simp)
      rw [List.cons_append, cut, hand, hbetween]
      simp [ih h.tail]

private theorem foldr_extendFirst (items part : List Item) (parts : List (List Item)) :
    items.foldr extendFirst (part :: parts) = (items ++ part) :: parts := by
  induction items with
  | nil =>
      rfl
  | cons item items ih =>
      rw [List.foldr_cons, ih]
      rfl

theorem cut_range {shown low high : List Item} (hshown : Without ["AND", "BETWEEN"] shown)
    (hlow : Without ["AND", "BETWEEN"] low) (hhigh : Without ["AND", "BETWEEN"] high) :
    cut "AND" false (shown ++ .token (.word "BETWEEN".toList) ::
        (low ++ .token (.word "AND".toList) :: high)) =
      [shown ++ .token (.word "BETWEEN".toList) ::
        (low ++ .token (.word "AND".toList) :: high)] := by
  have hbetween : isKeyword "AND" (.token (.word "BETWEEN".toList)) = false := rfl
  have hranged : isKeyword "BETWEEN" (.token (.word "BETWEEN".toList)) = true := rfl
  have hand : isKeyword "AND" (.token (.word "AND".toList)) = true := rfl
  have hlast : cut "AND" false high = [high] := cut_of_without (hhigh.weaken (by simp)) false
  rw [cut_before hshown, cut, hbetween, hranged]
  simp only [Bool.false_and, Bool.false_eq_true, if_false, Bool.false_or, Bool.not_false,
    Bool.and_true]
  rw [cut_before hlow, cut, hand]
  simp only [Bool.true_and, Bool.not_true, Bool.false_eq_true, if_false, Bool.true_or,
    Bool.and_false]
  rw [hlast, extendFirst, foldr_extendFirst, extendFirst, foldr_extendFirst]

/-!
# Grades
-/

inductive Grade where
  | operand
  | negation
  | conjunction
  | disjunction
  deriving DecidableEq, Repr

def Grade.reading : Grade -> List Item -> Formula
  | operand => readOperand
  | negation => readNegation
  | conjunction => readConjunction
  | disjunction => readDisjunction

/-- The keywords that parts of every grade have in parentheses only. -/
def reserved : List String :=
  ["BETWEEN", "SELECT", "WHERE", "ORDER"]

def Grade.foreign : Grade -> List String
  | operand => "NOT" :: "AND" :: "OR" :: reserved
  | negation => "AND" :: "OR" :: reserved
  | conjunction => "OR" :: reserved
  | disjunction => reserved

/-!
A connective makes a sequence of its own grade from parts of the next tighter one.  Its
keyword stands between the parts and nowhere in them.
-/

def keywordOf : Connective -> String
  | .conjunction => "AND"
  | .disjunction => "OR"

def Grade.ofJoin : Connective -> Grade
  | .conjunction => conjunction
  | .disjunction => disjunction

def Grade.ofPart : Connective -> Grade
  | .conjunction => negation
  | .disjunction => conjunction

theorem Grade.foreign_ofPart (connective : Connective) :
    (ofPart connective).foreign = keywordOf connective :: (ofJoin connective).foreign := by
  cases connective <;> rfl

theorem Grade.reserved_subset (grade : Grade) : reserved ⊆ grade.foreign := by
  cases grade <;> decide

theorem Grade.reading_ofJoin (connective : Connective) (items : List Item) :
    (ofJoin connective).reading items =
      .joined connective ((cut (keywordOf connective) false items).map
        (ofPart connective).reading) := by
  cases connective <;> rfl

theorem isKeyword_keywordOf (connective : Connective) :
    isKeyword (keywordOf connective) (.token (.word (keywordOf connective).toList)) = true := by
  cases connective <;> rfl

theorem keywordOf_not_foreign (connective : Connective) :
    forall keyword, keyword ∈ (Grade.ofJoin connective).foreign ->
      isKeyword keyword (.token (.word (keywordOf connective).toList)) = false := by
  cases connective <;> decide

/-- Tokens of a grade that are read as a formula with a given truth. -/
def Reads (full : Prop) (grade : Grade) (ts : List Token)
    (truth : (List Token -> Bool) -> Prop) : Prop :=
  exists items, Nested full ts items ∧ items ≠ [] ∧ Without grade.foreign items ∧
    forall v, (grade.reading items).Holds v <-> truth v

section

variable {ts us : List Token} {truth other : (List Token -> Bool) -> Prop}

theorem readNegation_of_without {items : List Item} (h : Without ["NOT"] items) :
    readNegation items = readOperand items := by
  cases items with
  | nil =>
      rfl
  | cons item items =>
      have hitem : isKeyword "NOT" item = false := h item List.mem_cons_self _ (by simp)
      rw [readNegation, hitem]
      rfl

theorem Reads.negation (h : Reads full .operand ts truth) : Reads full .negation ts truth := by
  rcases h with ⟨items, hnested, hne, hwithout, hholds⟩
  refine ⟨items, hnested, hne, hwithout.weaken (List.subset_cons_self _ _), ?_⟩
  intro v
  have hread : readNegation items = readOperand items :=
    readNegation_of_without (hwithout.weaken (by simp [Grade.foreign]))
  rw [Grade.reading, hread]
  exact hholds v

theorem Reads.part (connective : Connective) (h : Reads full (.ofPart connective) ts truth) :
    Reads full (.ofJoin connective) ts truth := by
  rcases h with ⟨items, hnested, hne, hwithout, hholds⟩
  rw [Grade.foreign_ofPart] at hwithout
  refine ⟨items, hnested, hne, hwithout.weaken (List.subset_cons_self _ _), ?_⟩
  intro v
  have hcut : cut (keywordOf connective) false items = [items] :=
    cut_of_without (hwithout.weaken (by simp)) false
  rw [Grade.reading_ofJoin, hcut]
  exact hholds v

theorem Reads.loosen (h : Reads full .operand ts truth) (grade : Grade) :
    Reads full grade ts truth := by
  cases grade with
  | operand =>
      exact h
  | negation =>
      exact h.negation
  | conjunction =>
      exact h.negation.part .conjunction
  | disjunction =>
      exact (h.negation.part .conjunction).part .disjunction

theorem Reads.loosest {grade : Grade} (h : Reads full grade ts truth) :
    Reads full .disjunction ts truth := by
  cases grade with
  | operand =>
      exact h.loosen .disjunction
  | negation =>
      exact (h.part .conjunction).part .disjunction
  | conjunction =>
      exact h.part .disjunction
  | disjunction =>
      exact h

theorem Reads.congr {grade : Grade} (h : Reads full grade ts truth)
    (htruth : forall v, truth v <-> other v) :
    Reads full grade ts other := by
  rcases h with ⟨items, hnested, hne, hwithout, hholds⟩
  exact ⟨items, hnested, hne, hwithout, fun v => (hholds v).trans (htruth v)⟩

theorem isQuery_of_without {items : List Item} (h : Without ["SELECT"] items) :
    isQuery items = false := by
  cases items with
  | nil =>
      rfl
  | cons item items =>
      exact h item List.mem_cons_self _ (by simp)

theorem Reads.parenthesized (h : Reads full .disjunction ts truth) :
    Reads full .operand (opening :: ts ++ [closing]) truth := by
  rcases h with ⟨items, hnested, hne, hwithout, hholds⟩
  have hquery : isQuery items = false :=
    isQuery_of_without (hwithout.weaken (by simp [Grade.foreign, reserved]))
  refine ⟨[.ofGroup items], hnested.single_group hne, by simp, ?_, ?_⟩
  · exact (without_nil _).cons fun keyword _ => rfl
  · intro v
    rw [Item.ofGroup, hquery]
    exact hholds v

theorem Reads.not (h : Reads full .operand ts truth) :
    Reads full .negation (.word "NOT".toList :: ts) (fun v => ¬ truth v) := by
  rcases h.negation with ⟨items, hnested, hne, hwithout, hholds⟩
  refine ⟨.token (.word "NOT".toList) :: items, hnested.word _,
    by simp, hwithout.cons ?_, ?_⟩
  · decide
  · intro v
    have hnot : isKeyword "NOT" (.token (.word "NOT".toList)) = true := rfl
    rw [Grade.reading, readNegation, hnot]
    exact not_congr (hholds v)

theorem Reads.join (connective : Connective) (h : Reads full (.ofJoin connective) ts truth)
    (h' : Reads full (.ofJoin connective) us other) :
    Reads full (.ofJoin connective) (ts ++ .word (keywordOf connective).toList :: us)
      (fun v => connective.Joins (truth v) (other v)) := by
  rcases h with ⟨xs, hnested, hne, hwithout, hholds⟩
  rcases h' with ⟨ys, hnested', hne', hwithout', hholds'⟩
  refine ⟨xs ++ .token (.word (keywordOf connective).toList) :: ys,
    hnested.append (hnested'.word _), by simp,
    hwithout.append (hwithout'.cons (keywordOf_not_foreign connective)), ?_⟩
  intro v
  have hbetween : Without ["BETWEEN"] xs :=
    hwithout.weaken (List.Subset.trans (by simp [reserved]) (Grade.reserved_subset _))
  simp only [Grade.reading_ofJoin, Formula.joined_holds] at hholds hholds' ⊢
  rw [cut_append hbetween (isKeyword_keywordOf connective) ys, List.map_append,
    Connective.across_append]
  exact connective.joins_congr (hholds v) (hholds' v)

end

end Reader
end Statement
end Audience
