import Audience.Proofs.ConditionReading
import Audience.Proofs.Evaluation
import Audience.Proofs.StatementTokens
import Audience.Proofs.UserTables

/-!
# Conditions mean the same to a database

A condition on the columns or on the related rows of a user is written as an expression.  In
a database that stores the user, the expression is true for the user's row exactly when the
condition holds of the user, and false otherwise.

## Choices and tests
-/

namespace Audience
namespace Sql

open Statement Time

variable {db : Database} {row : Row} {user : User}

def choice (e : Expr) (values : List Value) : Expr :=
  if values = [] then .compare .equal (.constant (.integer 1)) (.constant (.integer 2))
  else .among e values

theorem means_choice {operand : Operand} {e : Expr} {values : List Literal} {vs : List Value}
    (he : operand.Means e) (hvs : List.Forall₂ Literal.Means values vs) :
    (Test.oneOf operand values).Means (choice e vs) := by
  cases hvs with
  | nil =>
      exact .oneOfNone operand
  | cons hv hvs =>
      exact .oneOf he (.cons hv hvs) (List.cons_ne_nil _ _)

theorem eval_choice (e : Expr) (values : List Value) (scope : Scope) (group : List Scope) :
    db.eval (choice e values) scope group = among (db.eval e scope group) values := by
  cases values with
  | nil =>
      rw [choice, if_pos rfl, Database.eval, Database.eval, Database.eval,
        compared_numbers rfl rfl, among]
      simp [Sign.ofNumbers]
  | cons value values =>
      rw [choice, if_neg (List.cons_ne_nil _ _), Database.eval]

theorem means_texts {values : List String} (h : forall value, value ∈ values -> Storable value) :
    List.Forall₂ Literal.Means (values.map .text) (values.map .text) := by
  rw [List.forall₂_map_left_iff, List.forall₂_map_right_iff, List.forall₂_same]
  intro value hvalue
  exact .text (h value hvalue)

theorem means_integers (values : List Int) :
    List.Forall₂ Literal.Means (values.map .integer) (values.map .integer) := by
  rw [List.forall₂_map_left_iff, List.forall₂_map_right_iff, List.forall₂_same]
  intro value hvalue
  exact .integer value

def ownedExpr (table key : String) : Expr :=
  .compare .equal (.column table key) userId.expr

theorem means_ownedBy (table key : String) : (ownedBy table key).Means (ownedExpr table key) :=
  .same ⟨table, key⟩ userId

theorem meets_owned {scope : Scope} {n : Int} (h : scope.value userTable "id" = .integer n)
    (table key : String) :
    db.meets (ownedExpr table key) scope =
      decide ((scope.value table key).number? = some (n : ℚ)) := by
  have howner : db.eval userId.expr scope [] = .integer n := h
  rw [Database.meets, ownedExpr, Database.eval, howner, Database.eval]
  simp only [compared_integer]

def valueExprs (e : Expr) (values : Option (List String)) : List Expr :=
  match values with
  | some values => [choice e (values.map .text)]
  | none => []

theorem means_valueTests {operand : Operand} {e : Expr} {values : Option (List String)}
    (he : operand.Means e)
    (h : forall given value, values = some given -> value ∈ given -> Storable value) :
    List.Forall₂ Test.Means (valueTests operand values) (valueExprs e values) := by
  cases values with
  | none =>
      exact .nil
  | some given =>
      have hgiven := means_texts fun value hvalue => h given value rfl hvalue
      exact .cons (means_choice he hgiven) .nil

theorem meets_valueExprs {e : Expr} {scope : Scope} {s : String}
    (h : db.eval e scope [] = .text s) (values : Option (List String)) :
    ((valueExprs e values).all fun e => db.meets e scope) = Predicate.listed values s := by
  cases values with
  | none =>
      rfl
  | some given =>
      simp [valueExprs, Database.meets, eval_choice, h, among_texts, Predicate.listed]

def sinceExprs (table : String) (since : Option Timestamp) : List Expr :=
  match since with
  | some bound =>
      [.compare .atLeast (.column table "created_at") (.constant (.text bound.sqlText))]
  | none => []

theorem means_sinceTests (table : String) {since : Option Timestamp}
    (h : forall bound, since = some bound -> bound.IsPlain) :
    List.Forall₂ Test.Means (sinceTests table since) (sinceExprs table since) := by
  cases since with
  | none =>
      exact .nil
  | some bound =>
      have hbound : (timeLiteral bound).Means (.text bound.sqlText) :=
        .text (Timestamp.storable_sqlText (h bound rfl))
      exact .cons (.compare .gte (.field _) hbound) .nil

theorem ofNumbers_times (comparison : Comparison) (s t : Timestamp) :
    (comparisonSense comparison).ofNumbers s.ordinal t.ordinal = comparison.ofTimes s t := by
  cases comparison <;>
    simp [comparisonSense, Sign.ofNumbers, Comparison.ofTimes, Timestamp.le, Timestamp.lt]

theorem meets_sinceExprs {table : String} {r : Row} {scope : Scope} {time : Timestamp}
    (h : r "created_at" = .time time) {since : Option Timestamp}
    (hplain : forall bound, since = some bound -> bound.IsPlain) :
    ((sinceExprs table since).all fun e => db.meets e ((table, r) :: scope)) =
      notBefore since time := by
  cases since with
  | none =>
      rfl
  | some bound =>
      have hread := Timestamp.readTime_sqlText (hplain bound rfl)
      have hsense := ofNumbers_times .gte time bound
      simp only [comparisonSense] at hsense
      simp [sinceExprs, Database.meets, Database.eval, Scope.value, h,
        compared_time _ _ hread, hsense, notBefore, Comparison.ofTimes]

/-!
## Columns
-/

def columnExpr : Column -> Expr
  | .language =>
      .coalesce (.asText (userField Column.language.sqlName).expr) (.constant (.text ""))
  | column => (userField column.sqlName).expr

theorem means_column (column : Column) : (columnOperand column).Means (columnExpr column) := by
  cases column with
  | language =>
      exact .asTextOrEmpty _
  | _ =>
      exact .field _

theorem eval_column (h : ShowsUser row user) (column : Column) (group : List Scope) :
    db.eval (columnExpr column) [(userTable, row)] group = .text (user.column column) := by
  have hcell := h.columns column
  cases column with
  | language =>
      have hvalue : db.eval (userField Column.language.sqlName).expr [(userTable, row)] group =
          userCell user .language := hcell
      rw [columnExpr, Database.eval, Database.eval, Database.eval, hvalue, userCell,
        User.column]
      cases user.languageId <;> rfl
  | _ =>
      exact hcell

/-!
## Related rows
-/

section Related

variable {α : Type} {table key : String} {n : Int} {shows : Row -> α -> Prop} {items : List α}
  {es : List Expr} {q : α -> Bool}

theorem meets_owned_conjunction (hrow : row "id" = .integer n) (htable : table ≠ userTable)
    (key : String) (es : List Expr) (r : Row) :
    db.meets (conjunction (ownedExpr table key :: es)) [(table, r), (userTable, row)] =
      (refers key n r && es.all fun e => db.meets e [(table, r), (userTable, row)]) := by
  have howner : Scope.value [(table, r), (userTable, row)] userTable "id" = .integer n := by
    have hne : (userTable == table) = false := by simpa using htable.symm
    simp [Scope.value, List.lookup, hne, hrow]
  have hvalue : Scope.value [(table, r), (userTable, row)] table key = r key := by
    simp [Scope.value]
  rw [Database.meets_conjunction, List.all_cons, meets_owned howner, hvalue, refers]

theorem eval_exists_owned (hrow : row "id" = .integer n) (htable : table ≠ userTable)
    (h : db.Shows table key n shows items)
    (hq : forall r item, item ∈ items -> shows r item ->
      (es.all fun e => db.meets e [(table, r), (userTable, row)]) = q item) :
    db.eval (.exists [table] (conjunction (ownedExpr table key :: es))) [(userTable, row)] [] =
      .truth (items.any q) := by
  rw [Database.eval_exists]
  simp only [meets_owned_conjunction hrow htable]
  rw [h.any_eq hq]

theorem eval_scalar_owned (hrow : row "id" = .integer n) (htable : table ≠ userTable)
    (h : db.Shows table key n shows items)
    (hq : forall r item, shows r item ->
      (es.all fun e => db.meets e [(table, r), (userTable, row)]) = q item)
    (figure : Expr) :
    exists rows group, List.Forall₂ shows rows (items.filter q) ∧
      (rows.map fun r => [(table, r), (userTable, row)]).Perm group ∧
      db.eval (.scalar figure [table] (conjunction (ownedExpr table key :: es)))
        [(userTable, row)] [] = db.eval figure [(userTable, row)] group := by
  rcases h.filter hq with ⟨rows, hrows, hperm⟩
  have hgroup := hperm.map fun r => [(table, r), (userTable, row)]
  refine ⟨rows, _, hrows, hgroup, ?_⟩
  rw [Database.eval_scalar]
  simp only [meets_owned_conjunction hrow htable]

end Related

/-!
## Relations
-/

def relationExpr (relation : Relation) (values : Option (List String)) : Expr :=
  match relation with
  | .actionPage =>
      .exists ["core_action"] (conjunction (ownedExpr "core_action" "user_id" ::
        valueExprs (.asText (.column "core_action" "page_id")) values))
  | .actionPageTag =>
      .exists ["core_action", "core_page_tags"]
        (.both
          (.compare .equal (.column "core_page_tags" "page_id") (.column "core_action" "page_id"))
          (conjunction (ownedExpr "core_action" "user_id" ::
            valueExprs (.asText (.column "core_page_tags" "tag_id")) values)))
  | .userField name =>
      .exists ["core_userfield"] (conjunction (ownedExpr "core_userfield" "parent_id" ::
        .compare .equal (.column "core_userfield" "name") (.constant (.text name)) ::
          valueExprs (.column "core_userfield" "value") values))
  | .phone =>
      .exists ["core_phone"] (conjunction (ownedExpr "core_phone" "user_id" ::
        valueExprs (.column "core_phone" "normalized_phone") values))

theorem means_related {relation : Relation} {values : Option (List String)}
    (hname : forall name, relation = .userField name -> Storable name)
    (hvalues : forall given value, values = some given -> value ∈ given -> Storable value) :
    (Condition.exists (relatedLookup relation values)).Means (relationExpr relation values) := by
  cases relation with
  | actionPage =>
      have htests := means_valueTests (.asText ⟨"core_action", "page_id"⟩) hvalues
      exact .exists (.single _ .one (.cons (means_ownedBy _ _) htests) (List.cons_ne_nil _ _))
  | actionPageTag =>
      have htests := means_valueTests (.asText ⟨"core_page_tags", "tag_id"⟩) hvalues
      exact .exists
        (.joined _ _ _ _ .one (.cons (means_ownedBy _ _) htests) (List.cons_ne_nil _ _))
  | userField name =>
      have htests := means_valueTests (.field ⟨"core_userfield", "value"⟩) hvalues
      have hequals : (Test.equals (.field ⟨"core_userfield", "name"⟩) (.text name)).Means _ :=
        .equals (.field _) (.text (hname name rfl))
      exact .exists (.single _ .one (.cons (means_ownedBy _ _) (.cons hequals htests))
        (List.cons_ne_nil _ _))
  | phone =>
      have htests := means_valueTests (.field ⟨"core_phone", "normalized_phone"⟩) hvalues
      exact .exists (.single _ .one (.cons (means_ownedBy _ _) htests) (List.cons_ne_nil _ _))

private theorem meets_tagged {n : Int} (hrow : row "id" = .integer n) (es : List Expr)
    (r tagRow : Row) :
    db.meets
        (.both
          (.compare .equal (.column "core_page_tags" "page_id") (.column "core_action" "page_id"))
          (conjunction (ownedExpr "core_action" "user_id" :: es)))
        [("core_page_tags", tagRow), ("core_action", r), (userTable, row)] =
      (refers "user_id" n r &&
        (decide (compared .equal (tagRow "page_id") (r "page_id") = .truth true) &&
          es.all fun e =>
            db.meets e [("core_page_tags", tagRow), ("core_action", r), (userTable, row)])) := by
  have howner : Scope.value [("core_page_tags", tagRow), ("core_action", r), (userTable, row)]
      userTable "id" = .integer n := hrow
  have hkey : Scope.value [("core_page_tags", tagRow), ("core_action", r), (userTable, row)]
      "core_action" "user_id" = r "user_id" := rfl
  have hpage : db.meets
      (.compare .equal (.column "core_page_tags" "page_id") (.column "core_action" "page_id"))
      [("core_page_tags", tagRow), ("core_action", r), (userTable, row)] =
        decide (compared .equal (tagRow "page_id") (r "page_id") = .truth true) := rfl
  rw [Database.meets_both, Database.meets_conjunction, List.all_cons, meets_owned howner, hkey,
    hpage, Bool.and_left_comm]
  rfl

private theorem eval_pageTags (hdb : db.Stores user) (hrow : ShowsUser row user)
    (values : Option (List String)) :
    db.eval (relationExpr .actionPageTag values) [(userTable, row)] [] =
      .truth ((user.relatedValues .actionPageTag).any (Predicate.listed values)) := by
  rw [relationExpr, User.relatedValues, List.any_flatMap, Database.eval_exists_pair]
  simp only [meets_tagged hrow.id, ← List.and_any_distrib_left]
  congr 1
  apply hdb.actions.any_eq
  intro r action haction hshows
  -- The rows that are joined to the row of an action are those of the tags of its page.
  have hjoin : forall tagRow : Row,
      decide (compared .equal (tagRow "page_id") (r "page_id") = .truth true) =
        refers "page_id" action.pageId tagRow := by
    intro tagRow
    rw [hshows.pageId, refers]
    simp only [compared_integer]
  simp only [hjoin, List.any_map]
  apply (hdb.tags action haction).any_eq
  intro tagRow tag htag hshown
  apply meets_valueExprs
  simp [Database.eval, Scope.value, List.lookup, hshown, Value.asText]

private theorem eval_userField (hdb : db.Stores user) (hrow : ShowsUser row user) (name : String)
    (values : Option (List String)) :
    db.eval (relationExpr (.userField name) values) [(userTable, row)] [] =
      .truth ((user.relatedValues (.userField name)).any (Predicate.listed values)) := by
  rw [relationExpr, User.relatedValues, List.any_map, List.any_filter]
  apply eval_exists_owned hrow.id (by decide) hdb.fields
  intro r field hfield hshows
  have hname : db.meets
      (.compare .equal (.column "core_userfield" "name") (.constant (.text name)))
      [("core_userfield", r), (userTable, row)] = (field.name == name) := by
    simp [Database.meets, Database.eval, Scope.value, hshows.name, compared, beq_eq_decide]
  have hvalue : db.eval (.column "core_userfield" "value")
      [("core_userfield", r), (userTable, row)] [] = .text field.value := by
    simp [Database.eval, Scope.value, hshows.value]
  rw [List.all_cons, hname, meets_valueExprs hvalue]
  rfl

theorem eval_related (hdb : db.Stores user) (hrow : ShowsUser row user) (relation : Relation)
    (values : Option (List String)) :
    db.eval (relationExpr relation values) [(userTable, row)] [] =
      .truth ((user.relatedValues relation).any (Predicate.listed values)) := by
  cases relation with
  | actionPage =>
      rw [relationExpr, User.relatedValues, List.any_map]
      apply eval_exists_owned hrow.id (by decide) hdb.actions
      intro r action haction hshows
      apply meets_valueExprs
      simp [Database.eval, Scope.value, hshows.pageId, Value.asText]
  | actionPageTag =>
      exact eval_pageTags hdb hrow values
  | userField name =>
      exact eval_userField hdb hrow name values
  | phone =>
      rw [relationExpr, User.relatedValues]
      apply eval_exists_owned hrow.id (by decide) hdb.phones
      intro r phone hphone hshows
      apply meets_valueExprs
      simp [Database.eval, Scope.value, hshows]

/-!
## Figures
-/

def completedExpr : Expr :=
  .compare .equal (.column "core_order" "status") (.constant (.text completedStatus))

def countExpr (table : String) (es : List Expr) : Expr :=
  .scalar (.count (.column table "id")) [table]
    (conjunction (ownedExpr table "user_id" :: es))

def sumExpr (table name : String) (es : List Expr) : Expr :=
  .scalar (.coalesce (.sum (.column table name)) (.constant (.integer 0))) [table]
    (conjunction (ownedExpr table "user_id" :: es))

def figureExpr (figure : Figure) (since : Option Timestamp) : Expr :=
  match figure with
  | .distinctOpens => countExpr "core_open" (sinceExprs "core_open" since)
  | .distinctActions => countExpr "core_action" (sinceExprs "core_action" since)
  | .completedTotal =>
      sumExpr "core_order" "total" (completedExpr :: sinceExprs "core_order" since)
  | .completedCount => countExpr "core_order" (completedExpr :: sinceExprs "core_order" since)

private theorem means_completed :
    (Test.equals (.field ⟨"core_order", "status"⟩) (.text completedStatus)).Means
      completedExpr :=
  .equals (.field _) (.text (by decide))

theorem means_figure (figure : Figure) {since : Option Timestamp}
    (h : forall bound, since = some bound -> bound.IsPlain) (comparison : Comparison)
    {value : Literal} {v : Value} (hv : value.Means v) :
    (Condition.figure (figureLookup figure since) comparison value).Means
      (.compare (comparisonSense comparison) (figureExpr figure since) (.constant v)) := by
  have howned := fun table => means_ownedBy table "user_id"
  have hsince := fun table => means_sinceTests table h
  cases figure with
  | distinctOpens =>
      exact .figure comparison
        (.single _ (.count _) (.cons (howned _) (hsince _)) (List.cons_ne_nil _ _)) rfl hv
  | distinctActions =>
      exact .figure comparison
        (.single _ (.count _) (.cons (howned _) (hsince _)) (List.cons_ne_nil _ _)) rfl hv
  | completedTotal =>
      exact .figure comparison
        (.single _ (.sumOrZero _) (.cons (howned _) (.cons means_completed (hsince _)))
          (List.cons_ne_nil _ _)) rfl hv
  | completedCount =>
      exact .figure comparison
        (.single _ (.count _) (.cons (howned _) (.cons means_completed (hsince _)))
          (List.cons_ne_nil _ _)) rfl hv

/-- The number of rows that belong to the user and meet some tests is the number of items
that meet them, if these have different ids. -/
theorem number_countExpr {α : Type} {table : String} {shows : Row -> α -> Prop} {items : List α}
    {es : List Expr} {q : α -> Bool} {id : α -> Int}
    (hrow : row "id" = .integer user.id) (htable : table ≠ userTable)
    (h : db.Shows table "user_id" user.id shows items)
    (hq : forall r item, shows r item ->
      (es.all fun e => db.meets e [(table, r), (userTable, row)]) = q item)
    (hid : forall r item, shows r item -> r "id" = .integer (id item))
    (hdistinct : (items.map id).Nodup) :
    (db.eval (countExpr table es) [(userTable, row)] []).number? =
      some (distinctCount ((items.filter q).map id)).value := by
  rcases eval_scalar_owned hrow htable h hq (.count (.column table "id")) with
    ⟨rows, group, hrows, hgroup, heval⟩
  have hcounted : forall scope, scope ∈ group ->
      db.eval (.column table "id") scope [] ≠ .null := by
    intro scope hscope
    rw [← hgroup.mem_iff, List.mem_map] at hscope
    rcases hscope with ⟨r, hr, rfl⟩
    have hids : rows.map (fun r => r "id") = _ := Database.map_eq_of_shows hrows hid
    have hmem := List.mem_map_of_mem (f := fun r : Row => r "id") hr
    rw [hids] at hmem
    rcases List.mem_map.mp hmem with ⟨item, hitem, hvalue⟩
    have hcolumn : db.eval (.column table "id") [(table, r), (userTable, row)] [] = r "id" := by
      simp [Database.eval, Scope.value]
    rw [hcolumn, ← hvalue]
    exact Value.noConfusion
  rw [countExpr, heval, db.eval_count hcounted, ← hgroup.length_eq, List.length_map,
    hrows.length_eq, value_distinctCount hdistinct]
  rfl

private theorem number_sumExpr {α : Type} {table name : String} {shows : Row -> α -> Prop}
    {items : List α} {es : List Expr} {q : α -> Bool} {value : α -> ℚ}
    (hrow : row "id" = .integer user.id) (htable : table ≠ userTable)
    (h : db.Shows table "user_id" user.id shows items)
    (hq : forall r item, shows r item ->
      (es.all fun e => db.meets e [(table, r), (userTable, row)]) = q item)
    (hvalue : forall r item, shows r item -> r name = .number (value item)) :
    (db.eval (sumExpr table name es) [(userTable, row)] []).number? =
      some ((items.filter q).map value).sum := by
  rcases eval_scalar_owned hrow htable h hq
    (.coalesce (.sum (.column table name)) (.constant (.integer 0))) with
    ⟨rows, group, hrows, hgroup, heval⟩
  have hcolumn : forall r : Row,
      db.eval (.column table name) [(table, r), (userTable, row)] [] = r name := by
    intro r
    simp [Database.eval, Scope.value]
  have hvalues := hgroup.map fun scope => db.eval (.column table name) scope []
  rw [List.map_map] at hvalues
  simp only [Function.comp_def, hcolumn, Database.map_eq_of_shows hrows hvalue] at hvalues
  rw [sumExpr, heval]
  apply db.number_sumOrZero
  rw [List.map_map]
  exact hvalues

private theorem meets_completed {r : Row} {order : Order} (h : ShowsOrder r order)
    {since : Option Timestamp} (hplain : forall bound, since = some bound -> bound.IsPlain) :
    ((completedExpr :: sinceExprs "core_order" since).all fun e =>
        db.meets e [("core_order", r), (userTable, row)]) =
      (notBefore since order.createdAt && order.status == completedStatus) := by
  have hstatus : db.meets completedExpr [("core_order", r), (userTable, row)] =
      (order.status == completedStatus) := by
    simp [completedExpr, Database.meets, Database.eval, Scope.value, h.status, compared,
      beq_eq_decide]
  rw [List.all_cons, hstatus, meets_sinceExprs h.createdAt hplain, Bool.and_comm]

theorem eval_figure (hdb : db.Stores user) (huser : user.IsConsistent)
    (hrow : ShowsUser row user) (figure : Figure) {since : Option Timestamp}
    (hplain : forall bound, since = some bound -> bound.IsPlain) :
    exists quantity, user.figure figure since = .ok quantity ∧
      (db.eval (figureExpr figure since) [(userTable, row)] []).number? =
        some quantity.value := by
  cases figure with
  | distinctOpens =>
      refine ⟨_, rfl, ?_⟩
      apply number_countExpr hrow.id (by decide) hdb.openings _ _ huser.openings
      · intro r opening hshows
        exact meets_sinceExprs hshows.createdAt hplain
      · intro r opening hshows
        exact hshows.id
  | distinctActions =>
      refine ⟨_, rfl, ?_⟩
      apply number_countExpr hrow.id (by decide) hdb.actions _ _ huser.actions
      · intro r action hshows
        exact meets_sinceExprs hshows.createdAt hplain
      · intro r action hshows
        exact hshows.id
  | completedTotal =>
      rcases huser.totals since with ⟨total, htotal, hexact⟩
      have hfigure : user.figure .completedTotal since = .ok total.quantity := by
        rw [User.figure, htotal]
      rw [User.completedOrders, List.filter_filter, List.map_map] at hexact
      refine ⟨_, hfigure, ?_⟩
      rw [hexact]
      apply number_sumExpr hrow.id (by decide) hdb.orders
      · intro r order hshows
        exact meets_completed hshows hplain
      · intro r order hshows
        exact hshows.total
  | completedCount =>
      refine ⟨_, rfl, ?_⟩
      rw [User.completedOrders, List.filter_filter]
      apply number_countExpr hrow.id (by decide) hdb.orders _ _ huser.orders
      · intro r order hshows
        exact meets_completed hshows hplain
      · intro r order hshows
        exact hshows.id

/-!
## Conditions on a user
-/

theorem ofNumbers_quantities (comparison : Comparison) (p q : Quantity) :
    (comparisonSense comparison).ofNumbers p.value q.value = comparison.ofQuantities p q := by
  rw [Bool.eq_iff_iff]
  cases comparison with
  | gt =>
      simp [comparisonSense, Sign.ofNumbers, Comparison.ofQuantities, Quantity.lt_iff]
  | gte =>
      simp [comparisonSense, Sign.ofNumbers, Comparison.ofQuantities, Quantity.le_iff]
  | lte =>
      simp [comparisonSense, Sign.ofNumbers, Comparison.ofQuantities, Quantity.le_iff]

private theorem means_bound (bound : Bound) :
    exists v, (boundLiteral bound).Means v ∧ v.number? = some bound.quantity.value := by
  cases bound with
  | count n =>
      refine ⟨_, .integer n, ?_⟩
      rw [Bound.quantity, Quantity.value_ofInt]
      rfl
  | amount d =>
      exact ⟨_, .amount d, number_amountValue d⟩

end Sql

/-- A condition on the columns or the related rows of a user that compares with texts that a
database can hold and with whole seconds. -/
inductive Predicate.IsPlain : Predicate -> Prop where
  | columnIn (column : Column) {values : List String}
      (h : forall value, value ∈ values -> Sql.Storable value) : IsPlain (.columnIn column values)
  | columnIs (column : Column) {value : String} (h : Sql.Storable value) :
      IsPlain (.columnIs column value)
  | idIn (ids : List Int) : IsPlain (.idIn ids)
  | created (comparison : Comparison) {time : Time.Timestamp} (h : time.IsPlain) :
      IsPlain (.created comparison time)
  | related {relation : Relation} {values : Option (List String)}
      (hname : forall name, relation = .userField name -> Sql.Storable name)
      (hvalues : forall given value, values = some given -> value ∈ given ->
        Sql.Storable value) :
      IsPlain (.related relation values)
  | figure (kind : Figure) {since : Option Time.Timestamp} (comparison : Comparison)
      (bound : Bound) (h : forall time, since = some time -> time.IsPlain) :
      IsPlain (.figure kind since comparison bound)

namespace Sql

open Statement Time

variable {db : Database} {row : Row} {user : User}

private theorem means_same {p : Predicate} (hp : p.IsPlain) (hdb : db.Stores user)
    (huser : user.IsConsistent) (hrow : ShowsUser row user) :
    exists e answer, (condition p).Means e ∧ p.holds user = .ok answer ∧
      db.eval e [(userTable, row)] [] = .truth answer := by
  have hid : db.eval userId.expr [(userTable, row)] [] = .integer user.id := hrow.id
  cases hp with
  | @columnIn column values h =>
      refine ⟨_, _, .test (means_choice (means_column column) (means_texts h)), rfl, ?_⟩
      rw [eval_choice, eval_column hrow, among_texts]
  | @columnIs column value h =>
      refine ⟨_, _, .test (.equals (means_column column) (.text h)), rfl, ?_⟩
      rw [Database.eval, eval_column hrow, Database.eval, compared, if_pos rfl, beq_eq_decide]
  | idIn ids =>
      cases ids with
      | nil =>
          exact ⟨_, _, .constant false, rfl, rfl⟩
      | cons first ids =>
          refine ⟨_, _, .test (means_choice (.field userId) (means_integers (first :: ids))),
            rfl, ?_⟩
          rw [eval_choice, hid, among_integers]
  | @created comparison time h =>
      have hread := Timestamp.readTime_sqlText h
      have htime : (timeLiteral time).Means (.text time.sqlText) :=
        .text (Timestamp.storable_sqlText h)
      have hcolumn : db.eval (userField "created_at").expr [(userTable, row)] [] =
          .time user.createdAt := hrow.createdAt
      refine ⟨_, _, .test (.compare comparison (.field _) htime), rfl, ?_⟩
      rw [Database.eval, hcolumn, Database.eval, compared_time _ _ hread, ofNumbers_times]
  | related hname hvalues =>
      exact ⟨_, _, means_related hname hvalues, rfl, eval_related hdb hrow _ _⟩
  | @figure kind since comparison bound h =>
      rcases means_bound bound with ⟨v, hv, hnumber⟩
      rcases eval_figure hdb huser hrow kind h with ⟨quantity, hfigure, heval⟩
      have hholds : (Predicate.figure kind since comparison bound).holds user =
          .ok (comparison.ofQuantities quantity bound.quantity) := by
        rw [Predicate.holds, hfigure]
        rfl
      refine ⟨_, _, means_figure kind h comparison hv, hholds, ?_⟩
      rw [Database.eval, Database.eval, compared_numbers heval hnumber, ofNumbers_quantities]

private theorem Database.Stores.showsUser (hdb : db.Stores user) (hmem : row ∈ db.rows userTable)
    (hid : refers "id" user.id row = true) :
    ShowsUser row user := by
  rcases hdb.users with ⟨rows, hrows, hperm⟩
  cases hrows with
  | cons hshows hrest =>
      cases hrest
      have hfound : row ∈ (db.rows "core_user").filter (refers "id" user.id) :=
        List.mem_filter.mpr ⟨hmem, hid⟩
      rw [← hperm.mem_iff, List.mem_singleton] at hfound
      rw [hfound]
      exact hshows

/-- The written condition is read by a database that stores a user, and it is true for the
row of the user exactly when the condition holds of the user, and false otherwise. -/
theorem written_condition_holds {p : Predicate} (hp : p.IsPlain) (hdb : db.Stores user)
    (huser : user.IsConsistent) (hmem : row ∈ db.rows userTable)
    (hid : refers "id" user.id row = true) :
    exists e answer, Reader.read? (text (condition p).pieces).toList = some e ∧
      p.holds user = .ok answer ∧ db.eval e [(userTable, row)] [] = .truth answer := by
  have hrow := hdb.showsUser hmem hid
  rcases means_same hp hdb huser hrow with ⟨e, answer, hmeans, hholds, heval⟩
  have hread := Reader.read_condition hmeans (separable_predicate p)
  refine ⟨e, answer, ?_, hholds, heval⟩
  rw [text, String.toList_ofList]
  exact hread

def springOrder : Order :=
  ⟨1, ⟨1250, 2, by decide, by decide⟩, completedStatus, .midnight ⟨2020, 3, 15, by decide⟩⟩

/-- A donor with a line break for a city. -/
def donor : User :=
  { User.unknown 7 "subscribed" with city := "\n", orders := [springOrder] }

def donations : Database where
  rows
    | "core_user" => [userRow (User.unknown 8 "subscribed"), userRow donor]
    | "core_order" => [orderRow 8 springOrder, orderRow 7 springOrder]
    | _ => []

theorem stores_donor : donations.Stores donor where
  users := ⟨[userRow donor], .cons (showsUser_userRow donor) .nil, .of_eq (by rfl)⟩
  actions := ⟨[], .nil, .of_eq (by rfl)⟩
  tags := by
    intro action haction
    cases haction
  fields := ⟨[], .nil, .of_eq (by rfl)⟩
  phones := ⟨[], .nil, .of_eq (by rfl)⟩
  openings := ⟨[], .nil, .of_eq (by rfl)⟩
  orders := ⟨[orderRow 7 springOrder], .cons ⟨rfl, rfl, rfl, rfl⟩ .nil,
    .of_eq (by rfl)⟩

theorem mem_donations : userRow donor ∈ donations.rows userTable :=
  List.mem_cons_of_mem _ List.mem_cons_self

theorem isConsistent_donor : donor.IsConsistent where
  actions := List.nodup_nil
  openings := List.nodup_nil
  orders := List.nodup_singleton _
  totals := by
    intro since
    have hcompleted : donor.completedOrders = [springOrder] := rfl
    rw [hcompleted]
    cases hsince : notBefore since springOrder.createdAt with
    | false =>
        refine ⟨.zero, ?_, ?_⟩
        · simp [hsince, Decimal.sum?, Decimal.sumFrom?]
        · simp [hsince, Decimal.zero, Decimal.quantity, Quantity.value]
    | true =>
        refine ⟨springOrder.total, ?_, ?_⟩
        · simp [hsince, Decimal.sum?, Decimal.sumFrom?, Decimal.add?, Decimal.zero]
        · simp [hsince]

def generous : Predicate :=
  .figure .completedTotal (some (.midnight ⟨2020, 1, 1, by decide⟩)) .gte
    (.amount ⟨125, 1, by decide, by decide⟩)

private theorem isPlain_generous : generous.IsPlain := by
  apply Predicate.IsPlain.figure
  intro time htime
  cases htime
  decide

theorem written_condition_holds_of_donor :
    exists e, Reader.read? (text (condition generous).pieces).toList = some e ∧
      generous.holds donor = .ok true ∧
        donations.eval e [(userTable, userRow donor)] [] = .truth true := by
  rcases written_condition_holds isPlain_generous stores_donor isConsistent_donor
    mem_donations rfl with ⟨e, answer, hread, hholds, heval⟩
  have hanswer : generous.holds donor = .ok true := rfl
  rw [hholds] at hanswer
  cases hanswer
  exact ⟨e, hread, hholds, heval⟩

/-- A city that no database holds: the character number zero is written as one octal digit,
and those behind it are read with it. -/
def zeroCity : Predicate :=
  .columnIn .city ["\x0012"]

theorem written_zero_finds_lineBreak :
    donations.Stores donor ∧ donor.IsConsistent ∧ userRow donor ∈ donations.rows userTable ∧
      zeroCity.holds donor = .ok false ∧
        exists e, Reader.read? (text (condition zeroCity).pieces).toList = some e ∧
          donations.eval e [(userTable, userRow donor)] [] = .truth true := by
  refine ⟨stores_donor, isConsistent_donor, mem_donations, by decide, ?_⟩
  refine ⟨.among (.column "core_user" "city") [.text "\n"], ?_, rfl⟩
  rw [text, String.toList_ofList]
  rfl

end Sql
end Audience
