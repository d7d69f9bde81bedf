import Audience.Proofs.BooleanStructure

/-!
# The written statement selects what the plan selects

The condition of a whole statement reads as the predicate of the plan and the restriction
to the ids that may occur.  For a list of ids that is put in as it is, this takes a list
that can be read by itself: its quotes are closed and its parentheses are balanced.
-/

namespace Audience
namespace Statement
namespace Reader

open Lexer

variable {full : Prop}

/-!
# Restrictions
-/

/-- A list of ids that is read by itself between parentheses. -/
def IsSelfContained (list : String) : Prop :=
  Separable [.verbatim list] ∧ exists items, Nested False (lex list.toList) items

/-- A list of ids that is not empty and in which no pair of parentheses is. -/
def IsFilled (list : String) : Prop :=
  lex list.toList ≠ [] ∧ Filled (lex list.toList)

theorem separable_restriction {list : String} (h : Separable [.verbatim list]) :
    Separable (restrictionPieces list) := by
  have hclosed := h.around (.code ")") rfl rfl separable_nil
  exact (separable_field userId).around (.code " IN (") rfl rfl hclosed

theorem readsAs_restriction {list : String} {items : List Item}
    (h : Nested full (lex list.toList) items) (hfull : full -> items ≠ []) :
    ReadsAs full (.restriction list) (fun v => v (tokens (restrictionPieces list)) = true) := by
  have hin : (Piece.code " IN (").tokens = [.word "IN".toList, opening] := rfl
  have hfield : Solid full 3 (tokens userId.pieces) := solid_field userId
  have hgroup : Nested full (opening :: lex list.toList ++ [closing]) [.ofGroup items] :=
    .group hfull h .nil
  have hlist : Solid full 2 (.word "IN".toList :: (opening :: lex list.toList ++ [closing])) :=
    ⟨_, hgroup.word _, Nat.le_refl _,
      ((without_nil _).cons fun _ _ => rfl).cons (by decide)⟩
  have htokens : tokens (restrictionPieces list) =
      tokens userId.pieces ++
        .word "IN".toList :: (opening :: lex list.toList ++ [closing]) := by
    have hverbatim : (Piece.verbatim list).tokens = lex list.toList := rfl
    simp [restrictionPieces, hin, hverbatim]
  have hsolid : Solid full 5 (tokens (restrictionPieces list)) := by
    rw [htokens]
    exact hfield.append hlist
  exact (reads_atom (hsolid.mono (by decide))).negation

private theorem chars_joined (words : String) (parts : List (List Piece)) :
    chars (joined words parts) = List.intercalate words.toList (parts.map chars) := by
  unfold joined
  induction parts with
  | nil =>
      rfl
  | cons part parts ih =>
      cases parts with
      | nil =>
          simp [List.intercalate]
      | cons second parts =>
          rw [List.map_cons] at ih ⊢
          simp [List.intercalate_cons_cons, ih, Piece.chars]

/-- The pieces that a list of ids would have if it were not put in as it is. -/
def idPieces (ids : List Int) : List Piece :=
  joined ", " ((ids.map Literal.integer).map Literal.pieces)

theorem toList_idList (ids : List Int) : (idList ids).toList = chars (idPieces ids) := by
  have hmap : (ids.map toString).map String.toList =
      ((ids.map Literal.integer).map Literal.pieces).map chars := by
    rw [List.map_map, List.map_map, List.map_map]
    apply List.map_congr_left
    intro id hid
    simp [Literal.pieces, Piece.chars]
  rw [idList, String.toList_intercalate, idPieces, chars_joined, hmap]

theorem separable_idList (ids : List Int) : Separable [.verbatim (idList ids)] := by
  have hids : Separable (idPieces ids) := separable_values (ids.map .integer)
  intro rest hrest
  have hchars : chars [.verbatim (idList ids)] = chars (idPieces ids) := by
    simp [Piece.chars, toList_idList]
  have htokens : tokens [.verbatim (idList ids)] = tokens (idPieces ids) := by
    simp [Piece.tokens, Piece.chars, toList_idList, hids.lex_eq]
  rw [hchars, htokens, hids rest hrest]

theorem nested_idList {ids : List Int} (hne : ids ≠ []) :
    exists items, Nested full (lex (idList ids).toList) items ∧ items ≠ [] := by
  have hids : Separable (idPieces ids) := separable_values (ids.map .integer)
  have hsolid : Solid full 1 (tokens (idPieces ids)) := solid_values (by simpa using hne)
  rcases hsolid with ⟨items, hnested, hlength, _⟩
  rw [toList_idList, hids.lex_eq]
  exact ⟨items, hnested, List.ne_nil_of_length_pos hlength⟩

/-- Whether the ids that may occur let a row through, when the conditions of the statement
are true or false. -/
def Admits (v : List Token -> Bool) : IdSet -> Prop
  | .unbounded => True
  | .placeholder token => v (tokens (restrictionPieces token)) = true
  | .literal [] => False
  | .literal (id :: ids) => v (tokens (restrictionPieces (idList (id :: ids)))) = true

def TokenIs (property : String -> Prop) : IdSet -> Prop
  | .placeholder token => property token
  | _ => True

theorem readsAs_fullCondition (p : Predicate) {ids : IdSet}
    (h : TokenIs (fun token => exists items, Nested full (lex token.toList) items ∧
      (full -> items ≠ [])) ids) :
    ReadsAs full (fullCondition p ids)
      (fun v => p.decided (leafUnder v) = true ∧ Admits v ids) := by
  have hp : ReadsAs full (condition p) (fun v => p.decided (leafUnder v) = true) :=
    readsAs_condition p
  cases ids with
  | unbounded =>
      exact hp.congr fun v => by simp [Admits]
  | placeholder token =>
      rcases h with ⟨items, hnested, hfull⟩
      exact hp.join .conjunction (readsAs_restriction hnested hfull)
  | literal ids =>
      cases ids with
      | nil =>
          have hnone := hp.join .conjunction (readsAs_constant false)
          exact hnone.congr fun v => by simp [Connective.Joins, Admits]
      | cons id ids =>
          have hids : exists items, Nested full (lex (idList (id :: ids)).toList) items ∧
              items ≠ [] := nested_idList (by simp)
          rcases hids with ⟨items, hnested, hne⟩
          exact hp.join .conjunction (readsAs_restriction hnested fun _ => hne)

/-!
# Result columns
-/

private theorem solid_scalar {lookup : Lookup} (hne : lookup.tests ≠ [])
    (h : forall test, test ∈ lookup.tests -> IsColumnTest test) (name : String) :
    Solid full 1 (tokens (parenthesized lookup.pieces ++ [.code " AS ", .name name])) := by
  have has : (Piece.code " AS ").tokens.all isPlain = true := rfl
  have hnothing : Solid full 0 (tokens []) := solid_plain rfl
  have hgroup : Solid full 1 (tokens (parenthesized lookup.pieces)) := by
    rcases @reads_lookup full lookup hne h with ⟨items, hnested, _, hneItems, _⟩
    rw [tokens_parenthesized]
    exact ⟨_, hnested.single_group hneItems, Nat.le_refl _, (without_nil _).cons fun _ _ => rfl⟩
  exact (hgroup.pieces ((hnothing.cons (plain_name name)).cons has)).mono
    (Nat.le_add_right 1 _)

private theorem solid_output (column : OutputColumn) :
    Solid full 1 (tokens (outputPieces column)) := by
  have has : (Piece.code " AS ").tokens.all isPlain = true := rfl
  have hnothing : Solid full 0 (tokens []) := solid_plain rfl
  cases column with
  | id =>
      exact (solid_field userId).mono (by decide)
  | phone =>
      exact solid_scalar (by simp [phoneLookup])
        (by simp [phoneLookup, ownedBy, IsColumnTest]) "phone"
  | fullName =>
      have hname : Solid full 2 (tokens fullNameOperand.pieces) := solid_column rfl
      exact (hname.pieces ((hnothing.cons (plain_name "name")).cons has)).mono
        (Nat.le_trans (by decide) (Nat.le_add_right 2 _))
  | userField name =>
      exact solid_scalar (by simp [fieldLookup])
        (by simp [fieldLookup, ownedBy, IsColumnTest, operandItems]) name

/-!
# Statements
-/

private theorem nested_head (plan : Plan) :
    exists before, Nested full (tokens (headPieces plan))
        (before ++ [.token (.word "WHERE".toList)]) ∧
      Without ["WHERE"] before := by
  have hselect : (Piece.code
      (if plan.isDistinct then "SELECT DISTINCT " else "SELECT ")).tokens =
        .word "SELECT".toList ::
          (if plan.isDistinct then [.word "DISTINCT".toList] else []) := by
    cases plan.isDistinct <;> rfl
  have hdistinct : Solid full 0 (if plan.isDistinct then [.word "DISTINCT".toList] else []) := by
    cases plan.isDistinct with
    | true =>
        have hword : Solid full 1 [.word "DISTINCT".toList] := solid_plain rfl
        exact hword.mono (Nat.zero_le 1)
    | false =>
        exact solid_plain rfl
  have hfrom : (Piece.code " FROM ").tokens.all isPlain = true := rfl
  have hnothing : Solid full 0 (tokens []) := solid_plain rfl
  have hcolumns : Solid full (plan.columns.map outputPieces).length
      (tokens (joined ", " (plan.columns.map outputPieces))) := by
    apply solid_joined
    intro part hpart
    rcases List.mem_map.mp hpart with ⟨column, hcolumn, rfl⟩
    exact solid_output column
  have htable := hcolumns.pieces ((hnothing.cons (plain_name userTable)).cons hfrom)
  rcases hdistinct.append htable with ⟨items, hitems, _, hwithout⟩
  refine ⟨.token (.word "SELECT".toList) :: items, ?_,
    (hwithout.weaken (by decide)).cons (by decide)⟩
  have hsplit : tokens (headPieces plan) =
      .word "SELECT".toList ::
        ((if plan.isDistinct then [.word "DISTINCT".toList] else []) ++
          tokens (joined ", " (plan.columns.map outputPieces) ++
            [.code " FROM ", .name userTable])) ++ [.word "WHERE".toList] := by
    rw [headPieces]
    simp only [tokens_cons, tokens_append, tokens_nil, tokens_where, hselect, List.append_assoc,
      List.cons_append, List.nil_append]
  rw [hsplit]
  exact (hitems.append (Nested.nil.word _)).word _

theorem reads_statement (plan : Plan) {ids : IdSet}
    (h : TokenIs (fun token => exists items, Nested full (lex token.toList) items ∧
      (full -> items ≠ [])) ids) :
    exists items, Nested full (tokens (pieces plan ids)) items ∧
      forall v, (readDisjunction (wherePart items)).Holds v <->
        plan.selection.decided (leafUnder v) = true ∧ Admits v ids := by
  have hread : Reads full .disjunction (tokens (fullCondition plan.selection ids).pieces)
      (fun v => plan.selection.decided (leafUnder v) = true ∧ Admits v ids) :=
    (readsAs_fullCondition plan.selection h).loosest
  rcases @nested_head full plan with ⟨before, hbefore, hwithoutBefore⟩
  rcases hread with ⟨during, hduring, _, hwithoutDuring, hholds⟩
  have hafter : exists items, Nested full
      (tokens (.code " ORDER BY " :: userId.pieces ++ [.code " ASC"])) items ∧
        forall item, items.head? = some item -> isKeyword "ORDER" item = true :=
    nested_order userId rfl
  rcases hafter with ⟨after, hafter, horder⟩
  have hsplit : pieces plan ids =
      headPieces plan ++ ((fullCondition plan.selection ids).pieces ++
        (.code " ORDER BY " :: userId.pieces ++ [.code " ASC"])) := by
    simp [pieces, headPieces]
  refine ⟨before ++ [.token (.word "WHERE".toList)] ++ (during ++ after), ?_, ?_⟩
  · rw [hsplit, tokens_append, tokens_append]
    exact hbefore.append (hduring.append hafter)
  · intro v
    have hcondition := wherePart_eq hwithoutBefore (hwithoutDuring.weaken (by decide)) horder
    rw [List.append_assoc, List.singleton_append, hcondition]
    exact hholds v

private theorem separable_idCondition {ids : IdSet} (h : TokenIs IsSelfContained ids)
    {c : Condition}
    (hc : ids.condition? = some c) :
    Separable c.pieces := by
  cases ids with
  | unbounded =>
      cases hc
  | placeholder token =>
      cases hc
      exact separable_restriction h.1
  | literal ids =>
      cases ids with
      | nil =>
          cases hc
          exact separable_single rfl
      | cons id ids =>
          cases hc
          exact separable_restriction (separable_idList (id :: ids))

private theorem separable_tail {ids : IdSet} (h : TokenIs IsSelfContained ids) :
    Separable (tailPieces ids) := by
  have hasc : (Piece.code " ASC").IsBreak := rfl
  have horder : (Piece.code " ORDER BY ").IsBreak := rfl
  have hlast := ((separable_field userId).append (hasc.breaks []) (separable_single rfl)).cons
    (rfl : (Piece.code " ORDER BY ").IsClosed)
  unfold tailPieces
  cases hids : ids.condition? with
  | none =>
      exact hlast
  | some c =>
      have hand : (Piece.code " AND ").IsClosed := rfl
      have hcondition : Separable (c.enclosed .tight c.pieces) :=
        separable_enclosed .tight (separable_idCondition h hids)
      simpa using (hcondition.append (horder.breaks _) hlast).cons hand

private theorem lex_statement (plan : Plan) {ids : IdSet} (h : TokenIs IsSelfContained ids) :
    lex (render plan ids).toList = tokens (pieces plan ids) := by
  simp [lex_render, (separable_tail h).lex_eq, pieces_eq]

/-- The condition of a statement is the selection of the plan, together with the restriction
to the ids that may occur.  Whatever the written leaves are taken to be, the statement is
true exactly if the predicate is, decided as it is decided on a user; and parentheses are
empty nowhere. -/
theorem statement_reads_as_selection (plan : Plan) {ids : IdSet}
    (h : TokenIs IsSelfContained ids) :
    (forall v, (readStatement (lex (render plan ids).toList)).Holds v <->
      plan.selection.decided (leafUnder v) = true ∧ Admits v ids) ∧
    (forall v user,
      (forall leaf, leaf ∈ plan.selection.leaves -> leaf.isImpossible = false ->
        leaf.holds user = .ok (v (tokens (condition leaf).pieces))) ->
      plan.selection.holds user = .ok (plan.selection.decided (leafUnder v))) ∧
    (TokenIs IsFilled ids -> Filled (lex (render plan ids).toList)) := by
  rw [lex_statement plan h]
  refine ⟨?_, ?_, ?_⟩
  · have hnested : TokenIs (fun token => exists items, Nested False (lex token.toList) items ∧
        (False -> items ≠ [])) ids := by
      cases ids with
      | placeholder token =>
          rcases h.2 with ⟨items, hitems⟩
          exact ⟨items, hitems, False.elim⟩
      | _ =>
          trivial
    rcases reads_statement plan hnested with ⟨items, hitems, hholds⟩
    intro v
    rw [readStatement, hitems.grouped_eq]
    exact hholds v
  · intro v user hleaves
    apply Predicate.holds_decided
    intro leaf hleaf
    cases himpossible : leaf.isImpossible with
    | true =>
        rw [Predicate.holds_of_isImpossible himpossible, leafUnder, himpossible]
        rfl
    | false =>
        rw [hleaves leaf hleaf himpossible, leafUnder, himpossible]
        rfl
  · intro hfilled
    have hnested : TokenIs (fun token => exists items, Nested True (lex token.toList) items ∧
        (True -> items ≠ [])) ids := by
      cases ids with
      | placeholder token =>
          rcases h.2 with ⟨items, hitems⟩
          refine ⟨items, hitems.of_filled hfilled.2, ?_⟩
          intro _ h
          rcases h with rfl
          exact hfilled.1 hitems.flat_eq.symm
      | _ =>
          trivial
    rcases reads_statement plan hnested with ⟨items, hitems, _⟩
    exact hitems.filled

def listedPlan : Plan where
  selection :=
    .any [.all [.columnIn .country ["US"], .not (.related .phone (some []))], .any []]
  columns := [.id]
  isDistinct := false

def marked : IdSet := .placeholder "\x7b\x7b user_ids \x7d\x7d"

private theorem marked_isSelfContained : TokenIs IsSelfContained marked := by
  have hplain : (lex "\x7b\x7b user_ids \x7d\x7d".toList).all isPlain = true := rfl
  have hsolid : Solid False _ (lex "\x7b\x7b user_ids \x7d\x7d".toList) := solid_plain hplain
  rcases hsolid with ⟨items, hitems, _, _⟩
  exact ⟨separable_single rfl, items, hitems⟩

private theorem marked_isFilled : TokenIs IsFilled marked := by
  constructor
  · decide
  · unfold Filled
    decide

theorem statement_reads_as_selection_marked :
    TokenIs IsSelfContained marked ∧
    (forall v, (readStatement (lex (render listedPlan marked).toList)).Holds v <->
      listedPlan.selection.decided (leafUnder v) = true ∧ Admits v marked) ∧
    listedPlan.selection.holds (User.unknown 1 "subscribed") =
      .ok (listedPlan.selection.decided (leafUnder fun _ => false)) ∧
    Filled (lex (render listedPlan marked).toList) := by
  rcases statement_reads_as_selection listedPlan marked_isSelfContained with
    ⟨hreads, hdecides, hfills⟩
  refine ⟨marked_isSelfContained, hreads, hdecides (fun _ => false) _ ?_,
    hfills marked_isFilled⟩
  intro leaf hleaf himpossible
  have hleaves : leaf = .columnIn .country ["US"] ∨ leaf = .related .phone (some []) := by
    simpa [listedPlan, Predicate.leaves, Predicate.leavesOfAll] using hleaf
  rcases hleaves with rfl | rfl
  · rfl
  · cases himpossible

/-- A token that closes parentheses changes what is selected, and an empty one leaves an
empty list. -/
theorem statement_reads_otherwise :
    ¬ ((readStatement (lex (render ⟨.nobody, [.id], false⟩
        (.placeholder "1)) OR ((1 = 1")).toList)).Holds (fun _ => false) <->
      Predicate.nobody.decided (leafUnder fun _ => false) = true ∧
        Admits (fun _ => false) (.placeholder "1)) OR ((1 = 1")) ∧
    ¬ Filled (lex (render .baseline (.placeholder "")).toList) := by
  have hread : readStatement (lex (render ⟨.nobody, [.id], false⟩
      (.placeholder "1)) OR ((1 = 1")).toList) =
        .or (.and (.constant false) (.atom (tokens (restrictionPieces "1"))))
          (.constant true) := by
    decide +kernel
  constructor
  · rw [hread]
    intro hiff
    cases (hiff.mp (Or.inr rfl)).1
  · unfold Filled
    decide +kernel

end Reader
end Statement
end Audience
