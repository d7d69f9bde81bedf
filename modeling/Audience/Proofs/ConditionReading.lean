import Audience.Proofs.WrittenValues

/-!
# Conditions are read as they are meant

Every operand, test, lookup and condition stands for an expression, and a database that
reads its written form finds this expression.

## The expressions of conditions
-/

namespace Audience
namespace Statement

open Sql

/-- The value that a literal stands for, if a database can hold it. -/
inductive Literal.Means : Literal -> Value -> Prop where
  | text {s : String} (h : Storable s) : Means (.text s) (.text s)
  | integer (n : Int) : Means (.integer n) (.integer n)
  | amount (d : Decimal) : Means (.amount d) (amountValue d)

def Field.expr (field : Field) : Expr :=
  .column field.table field.column

inductive Operand.Means : Operand -> Expr -> Prop where
  | field (f : Field) : Means (.field f) f.expr
  | one : Means .one (.constant (.integer 1))
  | asText (f : Field) : Means (.asText f) (.asText f.expr)
  | asTextOrEmpty (f : Field) :
      Means (.asTextOrEmpty f) (.coalesce (.asText f.expr) (.constant (.text "")))
  | count (f : Field) : Means (.count f) (.count f.expr)
  | sumOrZero (f : Field) :
      Means (.sumOrZero f) (.coalesce (.sum f.expr) (.constant (.integer 0)))

def comparisonSense : Comparison -> Sign
  | .gt => .greater
  | .gte => .atLeast
  | .lte => .atMost

inductive Test.Means : Test -> Expr -> Prop where
  | same (left right : Field) :
      Means (.same left right) (.compare .equal left.expr right.expr)
  | compare {operand : Operand} {e : Expr} {value : Literal} {v : Value}
      (comparison : Comparison) (he : operand.Means e) (hv : value.Means v) :
      Means (.compare operand comparison value)
        (.compare (comparisonSense comparison) e (.constant v))
  | equals {operand : Operand} {e : Expr} {value : Literal} {v : Value}
      (he : operand.Means e) (hv : value.Means v) :
      Means (.equals operand value) (.compare .equal e (.constant v))
  | oneOfNone (operand : Operand) :
      Means (.oneOf operand []) (.compare .equal (.constant (.integer 1)) (.constant (.integer 2)))
  | oneOf {operand : Operand} {e : Expr} {values : List Literal} {vs : List Value}
      (he : operand.Means e) (hvs : List.Forall₂ Literal.Means values vs) (hne : values ≠ []) :
      Means (.oneOf operand values) (.among e vs)

/-- What a lookup shows, the tables that it runs over, and the condition on their rows. -/
inductive Lookup.Means : Lookup -> Expr -> List String -> Expr -> Prop where
  | single {shown : Operand} {e : Expr} {tests : List Test} {es : List Expr} (table : String)
      (he : shown.Means e) (hes : List.Forall₂ Test.Means tests es) (hne : tests ≠ []) :
      Means { shown := shown, table := table, tests := tests } e [table] (conjunction es)
  | joined {shown : Operand} {e : Expr} {tests : List Test} {es : List Expr}
      (table other : String) (left right : Field)
      (he : shown.Means e) (hes : List.Forall₂ Test.Means tests es) (hne : tests ≠ []) :
      Means { shown := shown, table := table, join := some (other, left, right), tests := tests }
        e [table, other] (.both (.compare .equal left.expr right.expr) (conjunction es))

inductive Condition.Means : Condition -> Expr -> Prop where
  | constant (value : Bool) : Means (.constant value) (.constant (.truth value))
  | test {test : Test} {e : Expr} (h : test.Means e) : Means (.test test) e
  | exists {lookup : Lookup} {shown : Expr} {tables : List String} {e : Expr}
      (h : lookup.Means shown tables e) : Means (.exists lookup) (.exists tables e)
  | figure {lookup : Lookup} {shown : Expr} {tables : List String} {e : Expr}
      {value : Literal} {v : Value} (comparison : Comparison)
      (h : lookup.Means shown tables e) (hshown : shown.isFigure = true)
      (hv : value.Means v) :
      Means (.figure lookup comparison value)
        (.compare (comparisonSense comparison) (.scalar shown tables e) (.constant v))

end Statement

/-!
## Reading operands

A reader that is given three steps for each token, and one or two more for the readers that
call it, gives back what it has read and leaves the rest alone.
-/

namespace Sql
namespace Reader

open Statement Lexer

def ReadsOperand (ts : List Token) (e : Expr) : Prop :=
  forall fuel rest, 3 * ts.length <= fuel -> operand? (fuel + 1) (ts ++ rest) = some (e, rest)

@[simp] theorem tokens_name (s : String) : (Piece.name s).tokens = [nameToken s.toList] :=
  lex_quotedName s.toList

theorem tokens_field (f : Field) :
    tokens f.pieces =
      [.name (f.table.toList.flatMap nameChar), .sign ['.'],
        .name (f.column.toList.flatMap nameChar)] := by
  have hpoint : (Piece.code ".").tokens = [.sign ['.']] := rfl
  simp [Field.pieces, hpoint, nameToken]

theorem nameOf_written (s : String) : nameOf (s.toList.flatMap nameChar) = s := by
  rw [nameOf, undoubled_nameChars, String.ofList_toList]

theorem constant_literal {value : Literal} {v : Value} (h : value.Means v) (rest : List Token) :
    constant? (tokens value.pieces ++ rest) = some (v, rest) := by
  cases h with
  | text h =>
      rw [Literal.pieces, tokens_cons, tokens_text]
      exact constant_text h rest
  | integer n =>
      rw [Literal.pieces, tokens_code]
      exact constant_integer n rest
  | amount d =>
      rw [Literal.pieces, tokens_code]
      exact constant_amount d rest

theorem operand_constant {ts : List Token} {v : Value} {rest : List Token}
    (h : constant? ts = some (v, rest)) (fuel : Nat) :
    operand? (fuel + 1) ts = some (.constant v, rest) := by
  unfold operand?
  dsimp only
  rw [h]

theorem reads_field (f : Field) : ReadsOperand (tokens f.pieces) f.expr := by
  intro fuel rest hfuel
  rw [tokens_field]
  simp [operand?, constant?, text?, keyword, nameOf_written, Field.expr]

@[simp] theorem expect_cons (token : Token) (rest : List Token) :
    expect token (token :: rest) = some rest :=
  if_pos rfl

theorem reads_constant {ts : List Token} {v : Value}
    (h : forall rest, constant? (ts ++ rest) = some (v, rest)) :
    ReadsOperand ts (.constant v) := by
  intro fuel rest hfuel
  exact operand_constant (h rest) fuel

def ReadsCall (name : String) (ts : List Token) (e : Expr) : Prop :=
  forall fuel rest, 3 * ts.length + 2 <= fuel ->
    call? (fuel + 2) name.toList (ts ++ closing :: rest) = some (e, rest)

theorem reads_call {name : String} {ts : List Token} {e : Expr}
    (hname : forall rest, constant? (keyword name :: rest) = none) (h : ReadsCall name ts e) :
    ReadsOperand (keyword name :: opening :: (ts ++ [closing])) e := by
  intro fuel rest hfuel
  simp only [List.length_cons, List.length_append, List.length_nil] at hfuel
  rcases fuel with _ | _ | fuel
  · omega
  · omega
  have hcall := h fuel rest (by omega)
  simp only [List.cons_append, List.append_assoc, List.nil_append]
  unfold operand?
  dsimp only
  rw [hname]
  exact hcall

theorem reads_cast {ts : List Token} {e : Expr} (h : ReadsOperand ts e) :
    ReadsCall "CAST" (ts ++ [keyword "AS", keyword "text"]) (.asText e) := by
  intro fuel rest hfuel
  have hinner := h fuel (keyword "AS" :: keyword "text" :: closing :: rest)
    (by simp at hfuel; omega)
  simp [call?, hinner]

theorem reads_coalesce {ts us : List Token} {e f : Expr} (h : ReadsOperand ts e)
    (h' : ReadsOperand us f) :
    ReadsCall "COALESCE" (ts ++ comma :: us) (.coalesce e f) := by
  intro fuel rest hfuel
  have hfirst := h fuel (comma :: (us ++ closing :: rest)) (by simp at hfuel; omega)
  have hsecond := h' fuel (closing :: rest) (by simp at hfuel; omega)
  simp [call?, hfirst, hsecond]

private theorem reads_count {ts : List Token} {e : Expr} (h : ReadsOperand ts e) :
    ReadsCall "COUNT" ts (.count e) := by
  intro fuel rest hfuel
  have hinner := h fuel (closing :: rest) (by omega)
  simp [call?, hinner]

private theorem reads_sum {ts : List Token} {e : Expr} (h : ReadsOperand ts e) :
    ReadsCall "SUM" ts (.sum e) := by
  intro fuel rest hfuel
  have hinner := h fuel (closing :: rest) (by omega)
  simp [call?, hinner]

theorem reads_operand {operand : Operand} {e : Expr} (h : operand.Means e) :
    ReadsOperand (tokens operand.pieces) e := by
  cases h with
  | field f =>
      exact reads_field f
  | one =>
      exact reads_constant fun rest => rfl
  | asText f =>
      have hread := reads_call (fun rest => rfl) (reads_cast (reads_field f))
      simp only [List.append_assoc, List.cons_append, List.nil_append] at hread
      rw [Operand.pieces, tokens_between]
      exact hread
  | asTextOrEmpty f =>
      have hcast := reads_call (fun rest => rfl) (reads_cast (reads_field f))
      have hempty : ReadsOperand [.text []] (.constant (.text "")) :=
        reads_constant fun rest => rfl
      have hread := reads_call (fun rest => rfl) (reads_coalesce hcast hempty)
      simp only [List.append_assoc, List.cons_append, List.nil_append] at hread
      rw [Operand.pieces, tokens_between]
      exact hread
  | count f =>
      rw [Operand.pieces, tokens_between]
      exact reads_call (fun rest => rfl) (reads_count (reads_field f))
  | sumOrZero f =>
      have hsum := reads_call (fun rest => rfl) (reads_sum (reads_field f))
      have hzero : ReadsOperand [.number ['0']] (.constant (.integer 0)) :=
        reads_constant fun rest => rfl
      have hread := reads_call (fun rest => rfl) (reads_coalesce hsum hzero)
      simp only [List.append_assoc, List.cons_append, List.nil_append] at hread
      rw [Operand.pieces, tokens_between]
      exact hread

/-!
## Reading comparisons
-/

/-- Nothing follows, or a parenthesis is closed. -/
def Ends (rest : List Token) : Prop :=
  forall t, rest.head? = some t -> t = closing

/-- Nothing follows, a parenthesis is closed, or a keyword follows that does not go on with
the comparison. -/
def Pauses (rest : List Token) : Prop :=
  forall t, rest.head? = some t ->
    t = closing ∨ exists letters, t = .word letters ∧ letters ≠ "IN".toList

def ReadsComparison (ts : List Token) (e : Expr) : Prop :=
  forall fuel rest, Pauses rest -> 3 * ts.length + 1 <= fuel ->
    comparison? (fuel + 1) (ts ++ rest) = some (e, rest)

theorem Ends.pauses {rest : List Token} (h : Ends rest) : Pauses rest := by
  intro t ht
  exact Or.inl (h t ht)

theorem ends_nil : Ends [] := by
  intro t ht
  cases ht

theorem ends_closing (rest : List Token) : Ends (closing :: rest) := by
  intro t ht
  exact (Option.some.inj ht).symm

theorem pauses_keyword {letters : String} (h : letters.toList ≠ "IN".toList)
    (rest : List Token) :
    Pauses (keyword letters :: rest) := by
  intro t ht
  exact Or.inr ⟨_, (Option.some.inj ht).symm, h⟩

theorem reads_alone {ts : List Token} {e : Expr} (h : ReadsOperand ts e) :
    ReadsComparison ts e := by
  intro fuel rest hrest hfuel
  rcases fuel with _ | fuel
  · omega
  have hoperand := h fuel rest (by omega)
  rw [comparison?, hoperand]
  cases rest with
  | nil =>
      rfl
  | cons t rest =>
      rcases hrest t rfl with rfl | ⟨letters, rfl, hletters⟩
      · rfl
      · simp only [Option.bind_eq_bind, Option.bind_some, if_neg hletters]
        rfl

theorem reads_compare {ts us : List Token} {e f : Expr} {marks : List Char} {sign : Sign}
    (h : ReadsOperand ts e) (hsign : sign? marks = some sign) (h' : ReadsOperand us f) :
    ReadsComparison (ts ++ .sign marks :: us) (.compare sign e f) := by
  intro fuel rest hrest hfuel
  simp only [List.length_cons, List.length_append] at hfuel
  rcases fuel with _ | fuel
  · omega
  have hleft := h fuel (.sign marks :: (us ++ rest)) (by omega)
  have hright := h' fuel rest (by omega)
  rw [List.append_assoc, List.cons_append]
  simp [comparison?, hleft, hsign, hright]

theorem tokens_joined (words : String) (parts : List (List Piece)) :
    tokens (joined words parts) =
      List.intercalate (Piece.code words).tokens (parts.map tokens) := by
  unfold joined
  induction parts with
  | nil =>
      rfl
  | cons part parts ih =>
      cases parts with
      | nil =>
          simp [List.intercalate]
      | cons other parts =>
          simp only [List.map_cons] at ih ⊢
          simp [List.intercalate_cons_cons, ih]

private theorem constants_values {values : List Literal} {vs : List Value}
    (h : List.Forall₂ Literal.Means values vs) (hne : values ≠ []) :
    forall fuel rest, (tokens (joined ", " (values.map Literal.pieces))).length <= fuel ->
      constants? (fuel + 1) (tokens (joined ", " (values.map Literal.pieces)) ++ closing :: rest) =
        some (vs, rest) := by
  have hcomma : (Piece.code ", ").tokens = [comma] := rfl
  simp only [tokens_joined, hcomma, List.map_map]
  induction h with
  | nil =>
      exact absurd rfl hne
  | @cons value v values vs hv hvs ih =>
      intro fuel rest hfuel
      cases hvs with
      | nil =>
          have hread := constant_literal hv (closing :: rest)
          have hlast : expect comma (closing :: rest) = none := rfl
          rw [constants?]
          simp [hread, hlast]
      | @cons other w values vs hw hvs =>
          simp only [List.map_cons, List.intercalate_cons_cons, Function.comp_apply,
            List.length_append, List.length_cons, List.append_assoc, List.cons_append,
            List.nil_append] at hfuel ih ⊢
          rcases fuel with _ | fuel
          · omega
          have hread := constant_literal hv
          have hrest := ih (by simp) fuel rest (by omega)
          rw [constants?, hread]
          simp [hrest]

theorem reads_among {ts : List Token} {e : Expr} {values : List Literal} {vs : List Value}
    (h : ReadsOperand ts e) (hvs : List.Forall₂ Literal.Means values vs) (hne : values ≠ []) :
    ReadsComparison
      (ts ++ keyword "IN" :: opening ::
        (tokens (joined ", " (values.map Literal.pieces)) ++ [closing]))
      (.among e vs) := by
  intro fuel rest hrest hfuel
  simp only [List.length_cons, List.length_append, List.length_nil] at hfuel
  rcases fuel with _ | fuel
  · omega
  have hleft := h fuel (keyword "IN" :: opening ::
    (tokens (joined ", " (values.map Literal.pieces)) ++ closing :: rest)) (by omega)
  have hvalues := constants_values hvs hne fuel rest (by omega)
  simp only [List.append_assoc, List.cons_append, List.nil_append]
  rw [comparison?, hleft]
  simp [keyword, hvalues]

theorem sign_comparisonSign (comparison : Comparison) :
    exists marks, (Piece.code (comparisonSign comparison)).tokens = [.sign marks] ∧
      sign? marks = some (comparisonSense comparison) := by
  cases comparison with
  | gt =>
      exact ⟨['>'], rfl, rfl⟩
  | gte =>
      exact ⟨['>', '='], rfl, rfl⟩
  | lte =>
      exact ⟨['<', '='], rfl, rfl⟩

theorem reads_literal {value : Literal} {v : Value} (h : value.Means v) :
    ReadsOperand (tokens value.pieces) (.constant v) :=
  reads_constant (constant_literal h)

theorem reads_test {test : Test} {e : Expr} (h : test.Means e) :
    ReadsComparison (tokens test.pieces) e := by
  have hequal : sign? ['='] = some .equal := rfl
  cases h with
  | same left right =>
      rw [Test.pieces, tokens_append]
      exact reads_compare (reads_field left) hequal (reads_field right)
  | compare comparison he hv =>
      rcases sign_comparisonSign comparison with ⟨marks, htokens, hsign⟩
      simpa [Test.pieces, htokens] using
        reads_compare (reads_operand he) hsign (reads_literal hv)
  | equals he hv =>
      rw [Test.pieces, tokens_append]
      exact reads_compare (reads_operand he) hequal (reads_literal hv)
  | oneOfNone operand =>
      have hone : ReadsOperand [.number ['1']] (.constant (.integer 1)) :=
        reads_constant fun rest => rfl
      have htwo : ReadsOperand [.number ['2']] (.constant (.integer 2)) :=
        reads_constant fun rest => rfl
      exact reads_compare hone hequal htwo
  | @oneOf operand e values vs he hvs hne =>
      cases values with
      | nil =>
          exact absurd rfl hne
      | cons value values =>
          rw [Test.pieces, List.append_assoc, tokens_append, List.cons_append, tokens_cons,
            tokens_append]
          exact reads_among (reads_operand he) hvs hne

/-!
## Reading conditions
-/

def ReadsCondition (ts : List Token) (e : Expr) : Prop :=
  forall fuel rest, Ends rest -> 3 * ts.length + 2 <= fuel ->
    condition? (fuel + 1) (ts ++ rest) = some (e, rest)

private theorem expect_of_ends {rest : List Token} (h : Ends rest) :
    expect (keyword "AND") rest = none := by
  cases rest with
  | nil =>
      rfl
  | cons t rest =>
      rw [h t rfl]
      rfl

theorem reads_comparison {ts : List Token} {e : Expr} (h : ReadsComparison ts e) :
    ReadsCondition ts e := by
  intro fuel rest hrest hfuel
  rcases fuel with _ | fuel
  · omega
  have hread := h fuel rest hrest.pauses (by omega)
  rw [condition?, hread]
  simp [expect_of_ends hrest]

private theorem reads_and {ts us : List Token} {e f : Expr} (h : ReadsComparison ts e)
    (h' : ReadsCondition us f) :
    ReadsCondition (ts ++ keyword "AND" :: us) (.both e f) := by
  intro fuel rest hrest hfuel
  simp only [List.length_cons, List.length_append] at hfuel
  rcases fuel with _ | fuel
  · omega
  have hleft := h fuel (keyword "AND" :: (us ++ rest)) 
    (pauses_keyword (by decide) _) (by omega)
  have hright := h' fuel rest hrest (by omega)
  rw [List.append_assoc, List.cons_append, condition?, hleft]
  simp [hright]

theorem reads_conjunction {tests : List Test} {es : List Expr}
    (h : List.Forall₂ Test.Means tests es) (hne : tests ≠ []) :
    ReadsCondition (tokens (joined " AND " (tests.map Test.operand))) (conjunction es) := by
  have hand : (Piece.code " AND ").tokens = [keyword "AND"] := rfl
  have hoperand : forall (test : Test) (e : Expr), test.Means e ->
      test.operand = test.pieces := by
    intro test e h
    cases h <;> rfl
  rw [tokens_joined, hand, List.map_map]
  induction h with
  | nil =>
      exact absurd rfl hne
  | @cons test e tests es he hes ih =>
      -- Only a range would be put in parentheses, and a range has no meaning here.
      have htest : ReadsComparison (tokens test.operand) e := by
        rw [hoperand test e he]
        exact reads_test he
      cases hes with
      | nil =>
          simpa [List.intercalate, conjunction] using reads_comparison htest
      | @cons other f tests es hf hes =>
          have hrest := reads_and htest (ih (by simp))
          simp only [List.map_cons, List.intercalate_cons_cons, Function.comp_apply,
            List.append_assoc, List.cons_append, List.nil_append] at hrest ⊢
          exact hrest

/-!
## Reading lookups
-/

def ReadsQuery (ts : List Token) (shown : Expr) (tables : List String) (e : Expr) : Prop :=
  forall fuel rest, Ends rest -> 3 * ts.length + 2 <= fuel ->
    query? (fuel + 1) (keyword "SELECT" :: ts ++ rest) = some (shown, tables, e, rest)

@[simp] theorem name_nameToken (s : String) (rest : List Token) :
    name? (nameToken s.toList :: rest) = some (s, rest) := by
  rw [nameToken, name?, nameOf_written]

theorem reads_query_single {shown ts : List Token} {e f : Expr} (table : String)
    (h : ReadsOperand shown e) (h' : ReadsCondition ts f) :
    ReadsQuery (shown ++ keyword "FROM" :: nameToken table.toList :: keyword "WHERE" :: ts)
      e [table] f := by
  intro fuel rest hrest hfuel
  simp only [List.length_cons, List.length_append] at hfuel
  rcases fuel with _ | fuel
  · omega
  have hshown := h fuel
    (keyword "FROM" :: nameToken table.toList :: keyword "WHERE" :: (ts ++ rest)) (by omega)
  have hcondition := h' fuel rest hrest (by omega)
  have hinner : forall rest, expect (keyword "INNER") (keyword "WHERE" :: rest) = none :=
    fun rest => rfl
  simp only [List.append_assoc, List.cons_append]
  rw [query?]
  simp [hshown, hinner, hcondition]

private theorem reads_query_joined {shown on ts : List Token} {e f g : Expr} (table other : String)
    (h : ReadsOperand shown e) (hon : ReadsComparison on f) (h' : ReadsCondition ts g) :
    ReadsQuery
      (shown ++ keyword "FROM" :: nameToken table.toList :: keyword "INNER" :: keyword "JOIN" ::
        nameToken other.toList :: keyword "ON" :: (on ++ keyword "WHERE" :: ts))
      e [table, other] (.both f g) := by
  intro fuel rest hrest hfuel
  simp only [List.length_cons, List.length_append] at hfuel
  rcases fuel with _ | fuel
  · omega
  have hshown := h fuel
    (keyword "FROM" :: nameToken table.toList :: keyword "INNER" :: keyword "JOIN" ::
      nameToken other.toList :: keyword "ON" :: (on ++ keyword "WHERE" :: (ts ++ rest)))
    (by omega)
  have hjoin := hon fuel (keyword "WHERE" :: (ts ++ rest)) 
    (pauses_keyword (by decide) _) (by omega)
  have hcondition := h' fuel rest hrest (by omega)
  simp only [List.append_assoc, List.cons_append]
  rw [query?]
  simp [hshown, hjoin, hcondition]

private theorem tokens_lookup (lookup : Lookup) :
    tokens lookup.pieces =
      keyword "SELECT" :: (tokens lookup.shown.pieces ++ keyword "FROM" ::
        nameToken lookup.table.toList :: (tokens (joinPieces lookup.join) ++ keyword "WHERE" ::
          (tokens (joined " AND " (lookup.tests.map Test.operand)) ++
            tokens (firstPieces lookup.first)))) := by
  have hselect : (Piece.code "SELECT ").tokens = [keyword "SELECT"] := rfl
  have hfrom : (Piece.code " FROM ").tokens = [keyword "FROM"] := rfl
  simp [lookup_pieces, testPieces, hselect, hfrom, keyword]

theorem reads_lookup {lookup : Lookup} {shown e : Expr} {tables : List String}
    (h : lookup.Means shown tables e) :
    exists ts, tokens lookup.pieces = keyword "SELECT" :: ts ∧
      ReadsQuery ts shown tables e := by
  refine ⟨_, tokens_lookup lookup, ?_⟩
  cases h with
  | single table he hes hne =>
      have hread := reads_query_single table (reads_operand he) (reads_conjunction hes hne)
      simpa [joinPieces, firstPieces] using hread
  | joined table other left right he hes hne =>
      have hon := reads_test (.same left right)
      have hread := reads_query_joined table other (reads_operand he) hon
        (reads_conjunction hes hne)
      have hjoin : tokens (joinPieces (some (other, left, right))) =
          keyword "INNER" :: keyword "JOIN" :: nameToken other.toList :: keyword "ON" ::
            tokens (Test.same left right).pieces := by
        have hinner : (Piece.code " INNER JOIN ").tokens = [keyword "INNER", keyword "JOIN"] := rfl
        have hon : (Piece.code " ON ").tokens = [keyword "ON"] := rfl
        simp [joinPieces, Test.pieces, hinner, hon]
      simpa [hjoin, firstPieces] using hread

theorem reads_exists {ts : List Token} {shown e : Expr} {tables : List String}
    (h : ReadsQuery ts shown tables e) :
    ReadsCall "EXISTS" (keyword "SELECT" :: ts) (.exists tables e) := by
  intro fuel rest hfuel
  simp only [List.length_cons] at hfuel
  have hquery := h fuel (closing :: rest) (ends_closing rest) (by omega)
  simp only [List.cons_append] at hquery ⊢
  rw [call?]
  simp [hquery]

theorem constant_opening (ts : List Token) : constant? (opening :: ts) = none := by
  simp [constant?, opening, keyword, text?]

private theorem reads_scalar {ts : List Token} {shown e : Expr} {tables : List String}
    (h : ReadsQuery ts shown tables e) (hshown : shown.isFigure = true) :
    ReadsOperand (opening :: (keyword "SELECT" :: ts ++ [closing])) (.scalar shown tables e) := by
  intro fuel rest hfuel
  simp only [List.length_cons, List.length_append, List.length_nil] at hfuel
  rcases fuel with _ | fuel
  · omega
  have hquery := h fuel (closing :: rest) (ends_closing rest) (by omega)
  simp only [List.cons_append, List.append_assoc, List.nil_append] at hquery ⊢
  unfold operand?
  dsimp only
  rw [constant_opening]
  simp [opening, hquery, hshown]

private theorem reads_parenthesized {ts : List Token} {e : Expr}
    (h : ReadsCondition (opening :: ts) e) :
    ReadsOperand (opening :: (opening :: ts ++ [closing])) e := by
  intro fuel rest hfuel
  simp only [List.length_cons, List.length_append, List.length_nil] at hfuel
  rcases fuel with _ | fuel
  · omega
  have hinner := h fuel (closing :: rest) (ends_closing rest) (by simp; omega)
  have hselect : opening ≠ keyword "SELECT" := by simp [opening, keyword]
  simp only [List.cons_append, List.append_assoc, List.nil_append] at hinner ⊢
  unfold operand?
  dsimp only
  rw [constant_opening]
  simp only [opening] at hinner hselect ⊢
  simp [hinner, hselect]

private theorem reads_condition {c : Condition} {e : Expr} (h : c.Means e) :
    ReadsComparison (tokens c.pieces) e := by
  cases h with
  | constant value =>
      have htoken : forall rest, constant? (tokens (Condition.constant value).pieces ++ rest) =
          some (.truth value, rest) := by
        intro rest
        cases value <;> rfl
      exact reads_alone (reads_constant htoken)
  | test h =>
      exact reads_test h
  | «exists» h =>
      rcases reads_lookup h with ⟨ts, htokens, hread⟩
      have hcall := reads_call (fun rest => rfl) (reads_exists hread)
      rw [Condition.pieces, tokens_between, htokens]
      exact reads_alone hcall
  | figure comparison h hshown hv =>
      rcases reads_lookup h with ⟨ts, htokens, hread⟩
      rcases sign_comparisonSign comparison with ⟨marks, hmarks, hsign⟩
      have hscalar := reads_comparison (reads_alone (reads_scalar hread hshown))
      have hcompare := reads_compare (reads_parenthesized hscalar) hsign (reads_literal hv)
      rw [Condition.pieces, tokens_append, tokens_cons, hmarks, parenthesized, tokens_between,
        parenthesized, tokens_between, htokens]
      exact hcompare

/-- A database reads the written form of a condition as the expression that it means. -/
theorem read_condition {c : Condition} {e : Expr} (h : c.Means e)
    (hpieces : Separable c.pieces) :
    read? (Statement.chars c.pieces) = some e := by
  have hread := reads_comparison (reads_condition h) (3 * (tokens c.pieces).length + 2) []
    ends_nil (Nat.le_refl _)
  rw [List.append_nil] at hread
  rw [read?, hpieces.lex_eq, hread]

end Reader
end Sql
end Audience
