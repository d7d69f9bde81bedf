import Audience.Proofs.Shape
import Audience.Proofs.TokenCounts

/-!
# Braces in statements

Nothing that a statement holds beside the strings of its plan has a brace in it: neither its
own words and names nor numbers and times.
-/

namespace Audience
namespace Statement

/-!
## Pieces without braces
-/

def BraceFree (pieces : List Piece) : Prop :=
  openBrace ∉ chars pieces

instance (pieces : List Piece) : Decidable (BraceFree pieces) :=
  inferInstanceAs (Decidable (openBrace ∉ chars pieces))

@[simp] theorem braceFree_nil : BraceFree [] := List.not_mem_nil

@[simp] theorem braceFree_append {ps qs : List Piece} :
    BraceFree (ps ++ qs) <-> BraceFree ps ∧ BraceFree qs := by
  rw [BraceFree, chars_append, List.mem_append, not_or]
  exact Iff.rfl

@[simp] theorem braceFree_cons {piece : Piece} {pieces : List Piece} :
    BraceFree (piece :: pieces) <-> openBrace ∉ piece.chars ∧ BraceFree pieces := by
  rw [BraceFree, chars_cons, List.mem_append, not_or]
  exact Iff.rfl

theorem BraceFree.append {ps qs : List Piece} (hps : BraceFree ps) (hqs : BraceFree qs) :
    BraceFree (ps ++ qs) :=
  braceFree_append.mpr ⟨hps, hqs⟩

theorem BraceFree.cons {pieces : List Piece} (h : BraceFree pieces) {piece : Piece}
    (hpiece : openBrace ∉ piece.chars) : BraceFree (piece :: pieces) :=
  braceFree_cons.mpr ⟨hpiece, h⟩

theorem BraceFree.parenthesized {pieces : List Piece} (h : BraceFree pieces) :
    BraceFree (parenthesized pieces) :=
  (h.append (by decide)).cons (by decide)

theorem braceFree_joined {words : String} (hwords : openBrace ∉ words.toList)
    {parts : List (List Piece)} (h : forall part, part ∈ parts -> BraceFree part) :
    BraceFree (joined words parts) := by
  unfold joined
  induction parts with
  | nil =>
      exact braceFree_nil
  | cons part parts ih =>
      rw [List.forall_mem_cons] at h
      cases parts with
      | nil =>
          simpa [List.intercalate] using h.left
      | cons other parts =>
          rw [List.intercalate_cons_cons]
          have hseparator : BraceFree [.code words] := braceFree_nil.cons hwords
          exact (h.left.append hseparator).append (ih h.right)

theorem figures_braceFree {s : List Char} (h : Number.Figures s) : openBrace ∉ s := by
  intro hmem
  exact absurd (h openBrace hmem) (by decide)

private theorem unsigned_braceFree {s : List Char} (h : Number.IsUnsigned s) : openBrace ∉ s := by
  rcases h with ⟨digit, rest, rfl, hdigit, hrest⟩
  rw [List.mem_cons, not_or]
  refine ⟨?_, figures_braceFree hrest⟩
  intro heq
  rw [← heq] at hdigit
  exact absurd hdigit (by decide)

theorem numeral_braceFree {s : List Char} (h : Number.IsNumeral s) : openBrace ∉ s := by
  cases h with
  | unsigned h =>
      exact unsigned_braceFree h
  | negative h =>
      rw [List.mem_cons, not_or]
      exact ⟨by decide, unsigned_braceFree h⟩
  | infinite =>
      decide
  | negativeInfinite =>
      decide
  | undefined =>
      decide

private theorem digits_braceFree {s : List Char} (h : Number.Digits s) : openBrace ∉ s :=
  figures_braceFree h.figures

private theorem sqlText_braceFree (time : Time.Timestamp) : openBrace ∉ time.sqlText.toList := by
  have hpadded := fun width n => digits_braceFree (Number.digits_padded width n)
  have hyear : openBrace ∉ (Time.Timestamp.yearText time.date.year).toList := by
    have hdigits := hpadded 4 time.date.year.natAbs
    unfold Time.Timestamp.yearText
    dsimp only
    split
    · rw [String.toList_append, List.mem_append, not_or]
      exact ⟨by decide, hdigits⟩
    · split
      · rw [String.toList_append, List.mem_append, not_or]
        exact ⟨by decide, hdigits⟩
      · exact hdigits
  simp only [Time.Timestamp.sqlText, Time.Timestamp.dateText, Time.Timestamp.clockText,
    String.toList_append, List.mem_append, not_or]
  simp [hyear, hpadded]
  decide

private theorem quotedText_braceFree {s : List Char} (h : openBrace ∉ s) :
    openBrace ∉ quotedText s := by
  have hescaped : openBrace ∉ s.flatMap escapedChar := by
    rw [List.mem_flatMap]
    intro h
    rcases h with ⟨c, hc, hmem⟩
    by_cases hwritten : isEscaped c = true
    · exact (escapedChar_of_isEscaped hwritten).right hmem
    · simp only [isEscaped, Bool.or_eq_true, not_or] at hwritten
      rw [escapedChar, if_neg hwritten.left.left, if_neg hwritten.left.right,
        if_neg hwritten.right, List.mem_singleton] at hmem
      rw [← hmem] at hc
      exact h hc
  unfold quotedText
  split
  · simp [hescaped]
    decide
  · simp [h]
    decide

theorem braceFree_time (time : Time.Timestamp) : BraceFree (timeLiteral time).pieces :=
  braceFree_nil.cons (quotedText_braceFree (sqlText_braceFree time))

theorem braceFree_integer (n : Int) : BraceFree (Literal.integer n).pieces :=
  braceFree_nil.cons (numeral_braceFree (Number.isNumeral_int n))

theorem braceFree_float (x : Float) : BraceFree (Literal.float x).pieces :=
  braceFree_nil.cons (numeral_braceFree (Number.isNumeral_float x))

theorem braceFree_bound (bound : Bound) : BraceFree (boundLiteral bound).pieces := by
  cases bound with
  | count n =>
      exact braceFree_integer n
  | amount d =>
      exact braceFree_nil.cons (numeral_braceFree (Number.isNumeral_amount d))

/-!
## Plans without their strings
-/

theorem braceFree_oneOf {operand : Operand} (hoperand : BraceFree operand.pieces)
    {values : List Literal} (h : forall value, value ∈ values -> BraceFree value.pieces) :
    BraceFree (Test.oneOf operand values).pieces := by
  cases values with
  | nil =>
      have hconstant : BraceFree [.code "1 = 2"] := by decide
      exact hconstant
  | cons value values =>
      have hjoined : BraceFree (joined ", " ((value :: values).map Literal.pieces)) := by
        apply braceFree_joined (by decide)
        intro part hpart
        rcases List.mem_map.mp hpart with ⟨found, hfound, rfl⟩
        exact h found hfound
      have hlist :
          BraceFree (.code " IN (" :: joined ", " ((value :: values).map Literal.pieces)) :=
        hjoined.cons (by decide)
      exact (hoperand.append hlist).append (by decide)

theorem braceFree_compare {operand : Operand} (hoperand : BraceFree operand.pieces)
    (comparison : Comparison) {value : Literal} (hvalue : BraceFree value.pieces) :
    BraceFree (Test.compare operand comparison value).pieces := by
  apply hoperand.append
  apply BraceFree.cons hvalue
  cases comparison <;> decide

theorem braceFree_lookup (lookup : Lookup) (hlookup : BraceFree lookup.pieces)
    {tests : List Test} (h : forall test, test ∈ tests -> BraceFree test.operand) :
    BraceFree { lookup with tests := tests }.pieces := by
  have htests : BraceFree (testPieces tests) := by
    apply BraceFree.cons _ (by decide)
    apply braceFree_joined (by decide)
    intro part hpart
    rcases List.mem_map.mp hpart with ⟨test, htest, rfl⟩
    exact h test htest
  simp only [lookup_pieces, braceFree_cons, braceFree_append] at hlookup ⊢
  rcases hlookup with ⟨hselect, hshown, hfrom, htable, hjoin, _, hfirst⟩
  exact ⟨hselect, hshown, hfrom, htable, hjoin, htests, hfirst⟩

private theorem braceFree_valueTests {operand : Operand} (hoperand : BraceFree operand.pieces)
    (values : Option (List String)) :
    forall test, test ∈ valueTests operand (values.map fun values => values.map fun _ => "") ->
      BraceFree test.operand := by
  intro test htest
  cases values with
  | none =>
      cases htest
  | some values =>
      rw [List.mem_singleton.mp htest]
      apply braceFree_oneOf hoperand
      intro value hvalue
      simp only [List.map_map, List.mem_map, Function.comp_apply] at hvalue
      rcases hvalue with ⟨_, _, rfl⟩
      decide

theorem braceFree_related (relation : Relation) (values : Option (List String)) :
    BraceFree
      (relatedLookup relation.blank (values.map fun values => values.map fun _ => "")).pieces := by
  cases relation with
  | actionPage =>
      refine braceFree_lookup (relatedLookup .actionPage none) (by decide) ?_
      exact List.forall_mem_cons.mpr ⟨by decide, braceFree_valueTests (by decide) values⟩
  | actionPageTag =>
      refine braceFree_lookup (relatedLookup .actionPageTag none) (by decide) ?_
      exact List.forall_mem_cons.mpr ⟨by decide, braceFree_valueTests (by decide) values⟩
  | userField name =>
      refine braceFree_lookup (relatedLookup (.userField "") none) (by decide) ?_
      exact List.forall_mem_cons.mpr ⟨by decide,
        List.forall_mem_cons.mpr ⟨by decide, braceFree_valueTests (by decide) values⟩⟩
  | phone =>
      refine braceFree_lookup (relatedLookup .phone none) (by decide) ?_
      exact List.forall_mem_cons.mpr ⟨by decide, braceFree_valueTests (by decide) values⟩

private theorem braceFree_sinceTests {table : String} (htable : openBrace ∉ quotedName table.toList)
    (since : Option Time.Timestamp) :
    forall test, test ∈ sinceTests table since -> BraceFree test.operand := by
  intro test htest
  cases since with
  | none =>
      cases htest
  | some bound =>
      have hfield : BraceFree (Operand.field ⟨table, "created_at"⟩).pieces :=
        BraceFree.cons (show BraceFree [.code ".", .name "created_at"] by decide) htable
      rw [List.mem_singleton.mp htest]
      exact braceFree_compare hfield .gte (braceFree_time bound)

theorem braceFree_figure (kind : Figure) (since : Option Time.Timestamp) :
    BraceFree (figureLookup kind since).pieces := by
  cases kind with
  | distinctOpens =>
      refine braceFree_lookup (figureLookup .distinctOpens none) (by decide) ?_
      exact List.forall_mem_cons.mpr ⟨by decide, braceFree_sinceTests (by decide) since⟩
  | distinctActions =>
      refine braceFree_lookup (figureLookup .distinctActions none) (by decide) ?_
      exact List.forall_mem_cons.mpr ⟨by decide, braceFree_sinceTests (by decide) since⟩
  | completedTotal =>
      refine braceFree_lookup (figureLookup .completedTotal none) (by decide) ?_
      exact List.forall_mem_cons.mpr ⟨by decide,
        List.forall_mem_cons.mpr ⟨by decide, braceFree_sinceTests (by decide) since⟩⟩
  | completedCount =>
      refine braceFree_lookup (figureLookup .completedCount none) (by decide) ?_
      exact List.forall_mem_cons.mpr ⟨by decide,
        List.forall_mem_cons.mpr ⟨by decide, braceFree_sinceTests (by decide) since⟩⟩

private theorem braceFree_between {field : Field} (hfield : BraceFree field.pieces)
    (low high : Float) :
    BraceFree (Test.between field (.float low) (.float high)).operand := by
  have hlow : BraceFree (.code " BETWEEN " :: (Literal.float low).pieces) :=
    (braceFree_float low).cons (by decide)
  have hhigh : BraceFree (.code " AND " :: (Literal.float high).pieces) :=
    (braceFree_float high).cons (by decide)
  exact ((hfield.append hlow).append hhigh).parenthesized

theorem braceFree_location (box : Geo.Box) : BraceFree (locationLookup box).pieces := by
  apply braceFree_lookup { shown := .one, table := "core_location", tests := [] } (by decide)
  rw [List.forall_mem_cons, List.forall_mem_cons, List.forall_mem_singleton]
  exact ⟨by decide, braceFree_between (by decide) _ _, braceFree_between (by decide) _ _⟩

theorem BraceFree.enclosed {c : Condition} (h : BraceFree c.pieces)
    (around : Condition.Binding) : BraceFree (c.enclosed around c.pieces) := by
  unfold Condition.enclosed
  split
  · exact h
  · exact h.parenthesized

theorem braceFree_and {c d : Condition} (hc : BraceFree c.pieces) (hd : BraceFree d.pieces) :
    BraceFree (Condition.and c d).pieces :=
  (hc.enclosed .conjunction).append ((hd.enclosed .tight).cons (by decide))

private theorem braceFree_or {c d : Condition} (hc : BraceFree c.pieces) (hd : BraceFree d.pieces) :
    BraceFree (Condition.or c d).pieces :=
  (hc.enclosed .disjunction).append ((hd.enclosed .tight).cons (by decide))

private theorem braceFree_chained {connective : Condition -> Condition -> Condition}
    (hconnective : forall {c d : Condition}, BraceFree c.pieces -> BraceFree d.pieces ->
      BraceFree (connective c d).pieces)
    (empty : Bool) {parts : List Condition}
    (h : forall c, c ∈ parts -> BraceFree c.pieces) :
    BraceFree (chained connective empty parts).pieces := by
  cases parts with
  | nil =>
      have hconstant : forall value, BraceFree (Condition.constant value).pieces := by
        decide
      exact hconstant empty
  | cons first rest =>
      rw [List.forall_mem_cons] at h
      rcases h with ⟨hfirst, hrest⟩
      unfold chained
      induction rest generalizing first with
      | nil =>
          exact hfirst
      | cons c rest ih =>
          rw [List.forall_mem_cons] at hrest
          exact ih (connective first c) (hconnective hfirst hrest.left) hrest.right

mutual

theorem braceFree_condition (p : Predicate) : BraceFree (condition p.blank).pieces := by
  cases p with
  | everyone =>
      decide
  | nobody =>
      decide
  | columnIn column values =>
      have hcolumn : BraceFree (columnOperand column).pieces := by
        cases column <;> decide
      apply braceFree_oneOf hcolumn
      intro value hvalue
      simp only [List.map_map, List.mem_map, Function.comp_apply] at hvalue
      rcases hvalue with ⟨_, _, rfl⟩
      decide
  | columnIs column value =>
      have hcolumn : BraceFree (columnOperand column).pieces := by
        cases column <;> decide
      exact hcolumn.append (by decide)
  | created comparison time =>
      exact braceFree_compare (by decide) comparison (braceFree_time time)
  | within box =>
      exact ((braceFree_location box).append (by decide)).cons (by decide)
  | related relation values =>
      exact ((braceFree_related relation values).append (by decide)).cons (by decide)
  | idIn ids =>
      cases ids with
      | nil =>
          decide
      | cons id ids =>
          apply braceFree_oneOf (by decide)
          intro value hvalue
          rcases List.mem_map.mp hvalue with ⟨n, _, rfl⟩
          exact braceFree_integer n
  | figure kind since comparison bound =>
      have hlookup := (braceFree_figure kind since).parenthesized.parenthesized
      have hbound :
          BraceFree (.code (comparisonSign comparison) :: (boundLiteral bound).pieces) := by
        apply (braceFree_bound bound).cons
        cases comparison <;> decide
      exact hlookup.append hbound
  | like target pattern =>
      have htarget : BraceFree (Operand.lower (searchOperand target)).pieces := by
        cases target <;> decide
      exact htarget.append (by decide)
  | all parts =>
      exact braceFree_chained braceFree_and true (braceFree_conditions parts)
  | any parts =>
      exact braceFree_chained braceFree_or false (braceFree_conditions parts)
  | not inner =>
      exact ((braceFree_condition inner).enclosed .tight).cons (by decide)

theorem braceFree_conditions (parts : List Predicate) :
    forall c, c ∈ conditions (Predicate.blanks parts) -> BraceFree c.pieces := by
  cases parts with
  | nil =>
      intro c hc
      cases hc
  | cons p parts =>
      intro c hc
      rcases List.mem_cons.mp hc with rfl | hc
      · exact braceFree_condition p
      · exact braceFree_conditions parts c hc

end

theorem braceFree_before (plan : Plan) : BraceFree (beforeRestriction plan.blank) := by
  have hcolumns : BraceFree (joined ", " (plan.blank.columns.map outputPieces)) := by
    apply braceFree_joined (by decide)
    intro part hpart
    rcases List.mem_map.mp hpart with ⟨column, hcolumn, rfl⟩
    rcases List.mem_map.mp hcolumn with ⟨found, _, rfl⟩
    have hblank : forall column, column ∈
        [OutputColumn.id, .phone, .fullName, .userField ""] -> BraceFree (outputPieces column) := by
      decide
    apply hblank
    cases found <;> simp [OutputColumn.blank]
  have hselect : openBrace ∉
      (Piece.code (if plan.isDistinct then "SELECT DISTINCT " else "SELECT ")).chars := by
    cases plan.isDistinct <;> decide
  have hselection := (braceFree_condition plan.selection).enclosed .conjunction
  exact (((hcolumns.cons hselect).append (by decide)).append hselection).append (by decide)

end Statement

/-!
## Blank plans
-/

@[simp] theorem Relation.blank_blank (relation : Relation) :
    relation.blank.blank = relation.blank := by
  cases relation <;> rfl

namespace Predicate

mutual

@[simp] theorem blank_blank (p : Predicate) : p.blank.blank = p.blank := by
  cases p with
  | columnIn column values =>
      simp only [blank, List.map_map]
      rfl
  | related relation values =>
      simp only [blank, Relation.blank_blank, Option.map_map, Function.comp_def, List.map_map]
  | all parts =>
      rw [blank, blank, blanks_blanks parts]
  | any parts =>
      rw [blank, blank, blanks_blanks parts]
  | not inner =>
      rw [blank, blank, blank_blank inner]
  | _ =>
      rfl

@[simp] theorem blanks_blanks (parts : List Predicate) : blanks (blanks parts) = blanks parts := by
  cases parts with
  | nil =>
      rfl
  | cons p parts =>
      rw [blanks, blanks, blank_blank p, blanks_blanks parts]

end

end Predicate

@[simp] theorem Plan.blank_blank (plan : Plan) : plan.blank.blank = plan.blank := by
  have hcolumns : (plan.columns.map OutputColumn.blank).map OutputColumn.blank =
      plan.columns.map OutputColumn.blank := by
    rw [List.map_map]
    apply List.map_congr_left
    intro column _
    cases column <;> rfl
  simp only [blank, Predicate.blank_blank, hcolumns]

end Audience
