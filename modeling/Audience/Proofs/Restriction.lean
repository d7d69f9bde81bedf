import Audience.Proofs.Numerals
import Audience.Proofs.Occurrences

/-!
# The restriction in a statement

A statement with an identifier restriction is the same text whatever the list in the
restriction is, except for the list itself.
-/

namespace Audience
namespace Statement

@[simp] theorem chars_nil : chars [] = [] := rfl

@[simp] theorem chars_cons (piece : Piece) (pieces : List Piece) :
    chars (piece :: pieces) = piece.chars ++ chars pieces := rfl

@[simp] theorem chars_append (pieces others : List Piece) :
    chars (pieces ++ others) = chars pieces ++ chars others := by
  unfold chars
  exact List.flatMap_append

@[simp] theorem toList_text (pieces : List Piece) : (text pieces).toList = chars pieces := by
  rw [text, String.toList_ofList]

def beforeRestriction (plan : Plan) : List Piece :=
  .code (if plan.isDistinct then "SELECT DISTINCT " else "SELECT ") ::
    joined ", " (plan.columns.map outputPieces) ++
    [.code " FROM ", .name userTable, .code " WHERE "] ++
    (condition plan.selection).enclosed .conjunction (condition plan.selection).pieces ++
    [.code " AND ", .code "("]

def afterRestriction : List Piece :=
  .code ")" :: .code " ORDER BY " :: userId.pieces ++ [.code " ASC"]

private theorem pieces_restricted (plan : Plan) {ids : IdSet} {list : String}
    (h : ids.condition? = some (.restriction list)) :
    pieces plan ids =
      beforeRestriction plan ++ (restrictionPieces list ++ afterRestriction) := by
  have hfull : (fullCondition plan.selection ids).pieces =
      (condition plan.selection).enclosed .conjunction (condition plan.selection).pieces ++
        .code " AND " :: parenthesized (restrictionPieces list) := by
    rw [fullCondition, h]
    rfl
  rw [pieces, hfull, beforeRestriction, afterRestriction, parenthesized]
  simp only [List.append_assoc, List.cons_append, List.nil_append]

theorem render_restricted (plan : Plan) {ids : IdSet} {list : String}
    (h : ids.condition? = some (.restriction list)) :
    render plan ids =
      text (beforeRestriction plan) ++ restrictionText list ++ text afterRestriction := by
  apply String.toList_injective
  simp only [render, restrictionText, String.toList_append, toList_text, List.append_assoc,
    pieces_restricted plan h, chars_append]

theorem restrictionText_endsOnce {list : String} (hlist : ')' ∉ list.toList) :
    Text.EndsOnce (restrictionText list).toList := by
  refine ⟨"\"core_user\".\"id\" IN (".toList ++ list.toList, ')', ?_, ?_⟩
  · rw [restrictionText, toList_text, List.append_assoc]
    rfl
  · rw [List.mem_append]
    intro hmem
    rcases hmem with hmem | hmem
    · revert hmem
      decide
    · exact hlist hmem

end Statement
end Audience
