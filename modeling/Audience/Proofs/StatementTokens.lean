import Audience.Proofs.Separation

/-!
# The tokens of a whole statement

Conditions, result columns and plans are read piece by piece.  Only a list of ids that is
put in as it is can be anything; the statement up to this list, and with it everything
that is written for the plan, is read by itself.
-/

namespace Audience
namespace Statement

open Lexer

/-!
# Conditions
-/

/-- Every restriction in a condition is a list of a given kind. -/
def Condition.RestrictedTo (allowed : String -> Prop) : Condition -> Prop
  | .restriction list => allowed list
  | .and left right | .or left right =>
      left.RestrictedTo allowed ∧ right.RestrictedTo allowed
  | .not inner => inner.RestrictedTo allowed
  | _ => True

theorem separable_enclosed {operand : Condition} {pieces : List Piece}
    (around : Condition.Binding) (h : Separable pieces) :
    Separable (operand.enclosed around pieces) := by
  unfold Condition.enclosed
  split
  · exact h
  · exact h.parenthesized

theorem separable_condition {allowed : String -> Prop}
    (hallowed : forall list, allowed list -> Separable (restrictionPieces list))
    {c : Condition} (h : c.RestrictedTo allowed) :
    Separable c.pieces := by
  have hnot : (Piece.code "NOT ").IsClosed := rfl
  have hexists : (Piece.code "EXISTS(").IsClosed := rfl
  induction c with
  | constant value =>
      cases value with
      | true =>
          exact separable_single rfl
      | false =>
          exact separable_single rfl
  | restriction list =>
      exact hallowed list h
  | test test =>
      exact separable_test test
  | «exists» lookup =>
      exact (separable_lookup lookup).between hexists rfl rfl
  | figure lookup comparison value =>
      exact (separable_lookup lookup).parenthesized.parenthesized.around _
        (comparisonSign_isBreak comparison) (comparisonSign_isClosed comparison)
        (separable_literal value)
  | and left right ihLeft ihRight =>
      exact (separable_enclosed .conjunction (ihLeft h.1)).around (.code " AND ") rfl rfl
        (separable_enclosed .tight (ihRight h.2))
  | or left right ihLeft ihRight =>
      exact (separable_enclosed .disjunction (ihLeft h.1)).around (.code " OR ") rfl rfl
        (separable_enclosed .tight (ihRight h.2))
  | not inner ih =>
      exact (separable_enclosed .tight (ih h)).cons hnot

private theorem restrictedTo_foldl {allowed : String -> Prop}
    {connective : Condition -> Condition -> Condition}
    (hconnective : forall c d, c.RestrictedTo allowed -> d.RestrictedTo allowed ->
      (connective c d).RestrictedTo allowed)
    {parts : List Condition} (hparts : forall c, c ∈ parts -> c.RestrictedTo allowed)
    {first : Condition} (hfirst : first.RestrictedTo allowed) :
    (parts.foldl connective first).RestrictedTo allowed := by
  induction parts generalizing first with
  | nil =>
      exact hfirst
  | cons part parts ih =>
      exact ih (fun c hc => hparts c (List.mem_cons_of_mem part hc))
        (hconnective first part hfirst (hparts part List.mem_cons_self))

private theorem restrictedTo_chained {allowed : String -> Prop}
    {connective : Condition -> Condition -> Condition}
    (hconnective : forall c d, c.RestrictedTo allowed -> d.RestrictedTo allowed ->
      (connective c d).RestrictedTo allowed)
    (empty : Bool) {parts : List Condition}
    (hparts : forall c, c ∈ parts -> c.RestrictedTo allowed) :
    (chained connective empty parts).RestrictedTo allowed := by
  cases parts with
  | nil =>
      trivial
  | cons part parts =>
      exact restrictedTo_foldl hconnective
        (fun c hc => hparts c (List.mem_cons_of_mem part hc)) (hparts part List.mem_cons_self)

mutual

theorem condition_restrictedTo (allowed : String -> Prop) (p : Predicate) :
    (condition p).RestrictedTo allowed := by
  cases p with
  | all parts =>
      have hand : forall c d : Condition, c.RestrictedTo allowed -> d.RestrictedTo allowed ->
          (Condition.and c d).RestrictedTo allowed := fun c d hc hd => ⟨hc, hd⟩
      exact restrictedTo_chained hand true (conditions_restrictedTo allowed parts)
  | any parts =>
      have hor : forall c d : Condition, c.RestrictedTo allowed -> d.RestrictedTo allowed ->
          (Condition.or c d).RestrictedTo allowed := fun c d hc hd => ⟨hc, hd⟩
      exact restrictedTo_chained hor false (conditions_restrictedTo allowed parts)
  | not inner =>
      exact condition_restrictedTo allowed inner
  | idIn ids =>
      cases ids <;> trivial
  | _ =>
      trivial

theorem conditions_restrictedTo (allowed : String -> Prop) (parts : List Predicate) :
    forall c, c ∈ conditions parts -> c.RestrictedTo allowed := by
  cases parts with
  | nil =>
      intro c hc
      cases hc
  | cons p parts =>
      intro c hc
      rcases List.mem_cons.mp hc with rfl | hc
      · exact condition_restrictedTo allowed p
      · exact conditions_restrictedTo allowed parts c hc

end

theorem separable_predicate (p : Predicate) : Separable (condition p).pieces := by
  have hnone : forall list, False -> Separable (restrictionPieces list) := by
    intro list h
    exact h.elim
  exact separable_condition hnone (condition_restrictedTo (fun _ => False) p)

/-!
# Plans
-/

def headPieces (plan : Plan) : List Piece :=
  .code (if plan.isDistinct then "SELECT DISTINCT " else "SELECT ") ::
    joined ", " (plan.columns.map outputPieces) ++
    [.code " FROM ", .name userTable, .code " WHERE "]

def selectionPieces (p : Predicate) (ids : IdSet) : List Piece :=
  match ids.condition? with
  | some _ => (condition p).enclosed .conjunction (condition p).pieces
  | none => (condition p).pieces

def tailPieces (ids : IdSet) : List Piece :=
  (match ids.condition? with
  | some restriction => .code " AND " :: restriction.enclosed .tight restriction.pieces
  | none => []) ++ .code " ORDER BY " :: userId.pieces ++ [.code " ASC"]

theorem pieces_eq (plan : Plan) (ids : IdSet) :
    pieces plan ids =
      headPieces plan ++ (selectionPieces plan.selection ids ++ tailPieces ids) := by
  unfold pieces headPieces selectionPieces tailPieces fullCondition
  cases ids.condition? with
  | none =>
      simp
  | some restriction =>
      simp [Condition.pieces]

private theorem separable_output (column : OutputColumn) : Separable (outputPieces column) := by
  have halias := separable_name column.alias
  cases column with
  | id =>
      exact separable_field userId
  | phone =>
      exact (separable_lookup phoneLookup).parenthesized.around (.code " AS ") rfl rfl halias
  | fullName =>
      exact (separable_operand fullNameOperand).around (.code " AS ") rfl rfl halias
  | userField name =>
      exact (separable_lookup (fieldLookup name)).parenthesized.around (.code " AS ") rfl rfl halias

private theorem separable_selection (p : Predicate) (ids : IdSet) :
    Separable (selectionPieces p ids) := by
  unfold selectionPieces
  split
  · exact separable_enclosed .conjunction (separable_predicate p)
  · exact separable_predicate p

private theorem separable_front (plan : Plan) (ids : IdSet) :
    Separable (headPieces plan ++ selectionPieces plan.selection ids) := by
  have hselect : (Piece.code
      (if plan.isDistinct then "SELECT DISTINCT " else "SELECT ")).IsClosed := by
    cases plan.isDistinct <;> rfl
  have hcomma : (Piece.code ", ").IsBreak := rfl
  have hcolumns : Separable (joined ", " (plan.columns.map outputPieces)) := by
    apply separable_joined hcomma rfl
    intro part hpart
    rcases List.mem_map.mp hpart with ⟨column, hcolumn, rfl⟩
    exact separable_output column
  have hselection : Separable ([.name userTable] ++ .code " WHERE " ::
      selectionPieces plan.selection ids) :=
    (separable_name userTable).around (.code " WHERE ") rfl rfl
      (separable_selection plan.selection ids)
  simpa [headPieces] using (hcolumns.around (.code " FROM ") rfl rfl hselection).cons hselect

private theorem breaks_tail (ids : IdSet) : Breaks (chars (tailPieces ids)) := by
  have hand : (Piece.code " AND ").IsBreak := rfl
  have horder : (Piece.code " ORDER BY ").IsBreak := rfl
  unfold tailPieces
  cases ids.condition? with
  | none =>
      exact horder.breaks _
  | some restriction =>
      exact hand.breaks _

/-- The tokens of a statement are those of its pieces, as far as the plan is written. -/
theorem lex_render (plan : Plan) (ids : IdSet) :
    lex (render plan ids).toList =
      tokens (headPieces plan) ++ (tokens (selectionPieces plan.selection ids) ++
        lex (chars (tailPieces ids))) := by
  rw [render, toList_text, pieces_eq, ← List.append_assoc, chars_append,
    separable_front plan ids _ (breaks_tail ids), tokens_append, List.append_assoc]

end Statement
end Audience
