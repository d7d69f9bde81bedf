import Audience.Proofs.ReadingLaws

/-!
# How tests and lookups are read

Texts, names, numbers and operands are sequences without connectives, and a test of a
column is an atom; a choice from no values is the only test that reads as false.  A lookup
is a query whose own condition reads as all of its tests, so it can find rows unless one of
the tests is such a choice.
-/

namespace Audience
namespace Statement
namespace Reader

open Lexer

variable {full : Prop}

/-!
# Plain sequences
-/

def isPlain : Token -> Bool
  | .word letters => !(Grade.operand.foreign.map String.toList).contains letters
  | .sign marks => marks != ['('] && marks != [')']
  | _ => true

/-- Tokens of at least so many items, with keywords of conditions or queries in parentheses
only. -/
def Solid (full : Prop) (least : Nat) (ts : List Token) : Prop :=
  exists items, Nested full ts items ∧ least <= items.length ∧
    Without Grade.operand.foreign items

theorem isPlain_keyword {t : Token} (h : isPlain t = true) :
    forall keyword, keyword ∈ Grade.operand.foreign -> isKeyword keyword (.token t) = false := by
  intro keyword hkeyword
  rw [isKeyword, beq_eq_false_iff_ne]
  intro h
  rcases h with rfl
  simp only [isPlain, Bool.not_eq_true', List.contains_eq_mem, decide_eq_false_iff_not] at h
  exact h (List.mem_map_of_mem hkeyword)

theorem isPlain_parenthesis {t : Token} (h : isPlain t = true) : t ≠ opening ∧ t ≠ closing := by
  constructor
  · intro h
    rcases h with rfl
    cases h
  · intro h
    rcases h with rfl
    cases h

theorem solid_plain {ts : List Token} (h : ts.all isPlain = true) :
    Solid full ts.length ts := by
  induction ts with
  | nil =>
      exact ⟨[], .nil, Nat.le_refl _, without_nil _⟩
  | cons t ts ih =>
      rw [List.all_cons, Bool.and_eq_true] at h
      rcases ih h.2 with ⟨items, hnested, hlength, hwithout⟩
      have hparenthesis := isPlain_parenthesis h.1
      exact ⟨.token t :: items, .token hparenthesis.1 hparenthesis.2 hnested,
        Nat.succ_le_succ hlength, hwithout.cons (isPlain_keyword h.1)⟩

theorem Solid.mono {least fewer : Nat} {ts : List Token} (h : Solid full least ts)
    (hle : fewer <= least) :
    Solid full fewer ts := by
  rcases h with ⟨items, hnested, hlength, hwithout⟩
  exact ⟨items, hnested, Nat.le_trans hle hlength, hwithout⟩

theorem Solid.append {m n : Nat} {ts us : List Token} (h : Solid full m ts)
    (h' : Solid full n us) :
    Solid full (m + n) (ts ++ us) := by
  rcases h with ⟨xs, hnested, hlength, hwithout⟩
  rcases h' with ⟨ys, hnested', hlength', hwithout'⟩
  refine ⟨xs ++ ys, hnested.append hnested', ?_, hwithout.append hwithout'⟩
  rw [List.length_append]
  exact Nat.add_le_add hlength hlength'

theorem Solid.group {ts : List Token} (h : Solid full 1 ts) :
    Solid full 1 (opening :: ts ++ [closing]) := by
  rcases h with ⟨items, hnested, hlength, hwithout⟩
  exact ⟨[.ofGroup items], hnested.single_group (List.ne_nil_of_length_pos hlength),
    Nat.le_refl _, (without_nil _).cons fun _ _ => rfl⟩

theorem Solid.pieces {m n : Nat} {ps qs : List Piece} (h : Solid full m (tokens ps))
    (h' : Solid full n (tokens qs)) :
    Solid full (m + n) (tokens (ps ++ qs)) := by
  rw [tokens_append]
  exact h.append h'

theorem Solid.cons {n : Nat} {piece : Piece} {ps : List Piece}
    (hplain : piece.tokens.all isPlain = true) (h : Solid full n (tokens ps)) :
    Solid full (piece.tokens.length + n) (tokens (piece :: ps)) :=
  (solid_plain hplain).append h

theorem Solid.arguments {ts : List Token} (h : Solid full 1 ts) (before after : List Token)
    (hbefore : before.all isPlain = true) (hafter : after.all isPlain = true) :
    Solid full (before.length + 1) (before ++ (opening :: (ts ++ after) ++ [closing])) := by
  have hinner : Solid full 1 (ts ++ after) :=
    (h.append (solid_plain hafter)).mono (Nat.le_add_right 1 _)
  exact (solid_plain hbefore).append hinner.group

theorem Solid.call {first last : Piece} {ps : List Piece} (h : Solid full 1 (tokens ps))
    (before after : List Token) (hfirst : first.tokens = before ++ [opening])
    (hlast : last.tokens = after ++ [closing]) (hbefore : before.all isPlain = true)
    (hafter : after.all isPlain = true) :
    Solid full (before.length + 1) (tokens (first :: ps ++ [last])) := by
  have harguments := h.arguments before after hbefore hafter
  rw [tokens_between, hfirst, hlast]
  simpa using harguments

/-!
# Values and operands
-/

theorem solid_text (s : String) : Solid full 1 (tokens [.text s]) := by
  have hplain : isPlain (textToken s.toList) = true := by
    unfold textToken
    split <;> rfl
  rw [tokens_cons, tokens_text]
  exact solid_plain (by simpa using hplain)

private theorem solid_numeral {words : String} (h : Number.IsNumeral words.toList) :
    Solid full 1 (tokens [.code words]) := by
  have hplain : (lex words.toList).all isPlain = true ∧ lex words.toList ≠ [] := by
    generalize words.toList = s at h
    cases h with
    | unsigned h =>
        rw [lex, scan, run_unsigned h]
        exact ⟨rfl, by simp [flush]⟩
    | negative h =>
        rw [lex, scan, run_negative h]
        exact ⟨rfl, by simp⟩
    | infinite =>
        decide
    | negativeInfinite =>
        decide
    | undefined =>
        decide
  rw [tokens_code]
  exact (solid_plain hplain.1).mono (List.length_pos_iff.mpr hplain.2)

theorem solid_literal (value : Literal) : Solid full 1 (tokens value.pieces) := by
  cases value with
  | text s =>
      exact solid_text s
  | integer n =>
      exact solid_numeral (Number.isNumeral_int n)
  | float x =>
      exact solid_numeral (Number.isNumeral_float x)
  | amount d =>
      exact solid_numeral (Number.isNumeral_amount d)

theorem plain_name (s : String) : (Piece.name s).tokens.all isPlain = true := by
  rw [Piece.tokens, Piece.chars, lex_quotedName]
  rfl

theorem solid_field (field : Field) : Solid full 3 (tokens field.pieces) := by
  have hname : forall s, (Piece.name s).tokens.length = 1 := by
    intro s
    rw [Piece.tokens, Piece.chars, lex_quotedName]
    rfl
  have hpoint : (Piece.code ".").tokens.all isPlain = true := rfl
  have hempty : Solid full 0 (tokens []) := solid_plain rfl
  have hfield := ((hempty.cons (plain_name field.column)).cons hpoint).cons
    (plain_name field.table)
  rw [hname, hname] at hfield
  exact hfield

def operandItems : Operand -> Nat
  | .one => 1
  | _ => 2

theorem operandItems_pos (operand : Operand) : 1 <= operandItems operand := by
  cases operand <;> simp [operandItems]

theorem solid_operand (operand : Operand) :
    Solid full (operandItems operand) (tokens operand.pieces) := by
  have hfield : forall f : Field, Solid full 1 (tokens f.pieces) := by
    intro f
    exact (solid_field f).mono (by decide)
  induction operand with
  | field f =>
      exact (solid_field f).mono (Nat.le_succ 2)
  | one =>
      exact solid_plain rfl
  | asText f =>
      have hlast : (Piece.code " AS text)").tokens =
          [.word "AS".toList, .word "text".toList] ++ [closing] := rfl
      exact (hfield f).call [.word "CAST".toList] _ rfl hlast rfl rfl
  | asTextOrEmpty f =>
      have hfirst : (Piece.code "COALESCE(CAST(").tokens =
          [.word "COALESCE".toList, opening, .word "CAST".toList, opening] := rfl
      have hlast : (Piece.code " AS text), '')").tokens =
          [.word "AS".toList, .word "text".toList, closing, .sign [','], .text [],
            closing] := rfl
      have hcast := (hfield f).arguments [.word "CAST".toList]
        [.word "AS".toList, .word "text".toList] rfl rfl
      have hcoalesce := (hcast.mono (by decide)).arguments [.word "COALESCE".toList]
        [.sign [','], .text []] rfl rfl
      rw [Operand.pieces, tokens_between, hfirst, hlast]
      simpa [operandItems] using hcoalesce
  | spaced f g =>
      have hcomma : (Piece.code ", ' ', ").tokens.all isPlain = true := rfl
      have hboth : Solid full 1 (tokens (f.pieces ++ .code ", ' ', " :: g.pieces)) :=
        ((hfield f).pieces ((hfield g).cons hcomma)).mono (Nat.le_add_right 1 _)
      have hcall : Solid full 2 (tokens
          (.code "CONCAT(" :: (f.pieces ++ .code ", ' ', " :: g.pieces) ++ [.code ")"])) :=
        hboth.call [.word "CONCAT".toList] [] rfl rfl rfl rfl
      simpa [Operand.pieces, operandItems] using hcall
  | lower operand ih =>
      have hinner : Solid full 1 (tokens operand.pieces) := ih.mono (operandItems_pos operand)
      exact hinner.call [.word "LOWER".toList] [] rfl rfl rfl rfl
  | count f =>
      exact (hfield f).call [.word "COUNT".toList] [] rfl rfl rfl rfl
  | sumOrZero f =>
      have hfirst : (Piece.code "COALESCE(SUM(").tokens =
          [.word "COALESCE".toList, opening, .word "SUM".toList, opening] := rfl
      have hlast : (Piece.code "), 0)").tokens =
          [closing, .sign [','], .number ['0'], closing] := rfl
      have hsum := (hfield f).arguments [.word "SUM".toList] [] rfl rfl
      have hcoalesce := (hsum.mono (by decide)).arguments [.word "COALESCE".toList]
        [.sign [','], .number ['0']] rfl rfl
      rw [Operand.pieces, tokens_between, hfirst, hlast]
      simpa [operandItems] using hcoalesce

theorem solid_column {operand : Operand} (h : operandItems operand = 2) :
    Solid full 2 (tokens operand.pieces) := by
  rw [← h]
  exact solid_operand operand

/-!
# Tests
-/

theorem readOperand_of_four {items : List Item} (h : 4 <= items.length) :
    readOperand items = .atom (flat items) := by
  unfold readOperand
  split
  case h_5 =>
    rfl
  all_goals
    simp at h

theorem reads_atom {ts : List Token} (h : Solid full 4 ts) :
    Reads full .operand ts (fun v => v ts = true) := by
  rcases h with ⟨items, hnested, hlength, hwithout⟩
  have hpos : 0 < items.length := Nat.lt_of_lt_of_le (by decide) hlength
  refine ⟨items, hnested, List.ne_nil_of_length_pos hpos, hwithout, ?_⟩
  intro v
  rw [Grade.reading, readOperand_of_four hlength, hnested.flat_eq]
  rfl

def TestHolds (v : List Token -> Bool) : Test -> Prop
  | .oneOf _ [] => False
  | test => v (tokens test.pieces) = true

/-- A test of a column, not of a number. -/
def IsColumnTest : Test -> Prop
  | .compare operand _ _ | .equals operand _ | .oneOf operand _ | .like operand _ =>
      operandItems operand = 2
  | _ => True

theorem tokens_parenthesized (ps : List Piece) :
    tokens (parenthesized ps) = opening :: tokens ps ++ [closing] :=
  tokens_between (.code "(") (.code ")") ps

theorem solid_joined {parts : List (List Piece)}
    (h : forall part, part ∈ parts -> Solid full 1 (tokens part)) :
    Solid full parts.length (tokens (joined ", " parts)) := by
  induction parts with
  | nil =>
      exact solid_plain rfl
  | cons part parts ih =>
      have hpart := h part List.mem_cons_self
      have hparts := ih fun other hother => h other (List.mem_cons_of_mem part hother)
      cases parts with
      | nil =>
          simpa [joined, List.intercalate] using hpart
      | cons second parts =>
          have hcomma : (Piece.code ", ").tokens.all isPlain = true := rfl
          have hsplit : joined ", " (part :: second :: parts) =
              part ++ .code ", " :: joined ", " (second :: parts) := by
            simp [joined, List.intercalate]
          rw [hsplit]
          exact (hpart.pieces (hparts.cons hcomma)).mono (by
            simp only [List.length_cons]
            omega)

theorem solid_values {values : List Literal} (hne : values ≠ []) :
    Solid full 1 (tokens (joined ", " (values.map Literal.pieces))) := by
  have hvalues : Solid full (values.map Literal.pieces).length
      (tokens (joined ", " (values.map Literal.pieces))) := by
    apply solid_joined
    intro part hpart
    rcases List.mem_map.mp hpart with ⟨value, hvalue, rfl⟩
    exact solid_literal value
  apply hvalues.mono
  rw [List.length_map]
  exact List.length_pos_iff.mpr hne

theorem solid_test {test : Test} (h : IsColumnTest test)
    (hchoice : forall operand, test ≠ .oneOf operand [])
    (hrange : forall field low high, test ≠ .between field low high) :
    Solid full 4 (tokens test.pieces) := by
  have hequals : (Piece.code " = ").tokens.all isPlain = true := rfl
  have hlike : (Piece.code " LIKE ").tokens.all isPlain = true := rfl
  cases test with
  | same left right =>
      exact ((solid_field left).pieces ((solid_field right).cons hequals)).mono (by decide)
  | compare operand comparison value =>
      have hoperand : Solid full 2 (tokens operand.pieces) := solid_column h
      cases comparison <;>
        exact hoperand.pieces ((solid_literal value).cons rfl)
  | equals operand value =>
      have hoperand : Solid full 2 (tokens operand.pieces) := solid_column h
      exact hoperand.pieces ((solid_literal value).cons hequals)
  | oneOf operand values =>
      have hoperand : Solid full 2 (tokens operand.pieces) := solid_column h
      cases values with
      | nil =>
          exact absurd rfl (hchoice operand)
      | cons value values =>
          have hlist : Solid full 2 (tokens (.code " IN (" ::
              joined ", " ((value :: values).map Literal.pieces) ++ [.code ")"])) :=
            (solid_values (by simp)).call [.word "IN".toList] [] rfl rfl rfl rfl
          simpa [Test.pieces] using hoperand.pieces hlist
  | between field low high =>
      exact absurd rfl (hrange field low high)
  | like operand pattern =>
      have hoperand : Solid full 2 (tokens operand.pieces) := solid_column h
      exact hoperand.pieces ((solid_text pattern).cons hlike)

private theorem readDisjunction_range {shown low high : List Item}
    (hshown : Without Grade.operand.foreign shown) (hlow : Without Grade.operand.foreign low)
    (hhigh : Without Grade.operand.foreign high) (hlength : 2 <= shown.length) :
    isQuery (shown ++ .token (.word "BETWEEN".toList) ::
        (low ++ .token (.word "AND".toList) :: high)) = false ∧
      readDisjunction (shown ++ .token (.word "BETWEEN".toList) ::
          (low ++ .token (.word "AND".toList) :: high)) =
        .atom (flat (shown ++ .token (.word "BETWEEN".toList) ::
          (low ++ .token (.word "AND".toList) :: high))) := by
  have hfew : ["NOT", "OR", "SELECT"] ⊆ Grade.operand.foreign := by decide
  have hrange : ["AND", "BETWEEN"] ⊆ Grade.operand.foreign := by decide
  have hcut := cut_range (hshown.weaken hrange) (hlow.weaken hrange) (hhigh.weaken hrange)
  have hwithout : Without ["NOT", "OR", "SELECT"] (shown ++ .token (.word "BETWEEN".toList) ::
      (low ++ .token (.word "AND".toList) :: high)) :=
    (hshown.weaken hfew).append (((hlow.weaken hfew).append
      ((hhigh.weaken hfew).cons (by decide))).cons (by decide))
  have hfour : 4 <= (shown ++ .token (.word "BETWEEN".toList) ::
      (low ++ .token (.word "AND".toList) :: high)).length := by
    simp only [List.length_append, List.length_cons]
    omega
  constructor
  · exact isQuery_of_without (hwithout.weaken (by decide))
  · rw [readDisjunction, cut_of_without (hwithout.weaken (by decide)), List.map_singleton,
      Formula.joined, readConjunction, hcut, List.map_singleton, Formula.joined,
      readNegation_of_without (hwithout.weaken (by decide)), readOperand_of_four hfour]

/-- A range in parentheses is an operand, though it has an `AND` of its own. -/
private theorem reads_range (field : Field) (low high : Literal) :
    Reads full .operand (tokens (parenthesized (Test.between field low high).pieces))
      (fun v => v (tokens (Test.between field low high).pieces) = true) := by
  have hfield : Solid full 3 (tokens field.pieces) := solid_field field
  have hliteral : forall value : Literal, Solid full 1 (tokens value.pieces) := solid_literal
  rcases hfield with ⟨xs, hxs, hlength, hshown⟩
  rcases hliteral low with ⟨ys, hys, _, hlow⟩
  rcases hliteral high with ⟨zs, hzs, _, hhigh⟩
  have htokens : tokens (Test.between field low high).pieces =
      tokens field.pieces ++ .word "BETWEEN".toList ::
        (tokens low.pieces ++ .word "AND".toList :: tokens high.pieces) := by
    have hbetween : (Piece.code " BETWEEN ").tokens = [.word "BETWEEN".toList] := rfl
    simp [Test.pieces, hbetween]
  have hnested : Nested full (tokens (Test.between field low high).pieces)
      (xs ++ .token (.word "BETWEEN".toList) :: (ys ++ .token (.word "AND".toList) :: zs)) := by
    rw [htokens]
    exact hxs.append ((hys.append (hzs.word _)).word _)
  rcases readDisjunction_range hshown hlow hhigh (Nat.le_of_succ_le hlength) with
    ⟨hquery, hread⟩
  rw [tokens_parenthesized]
  refine ⟨_, hnested.single_group (by simp), by simp, (without_nil _).cons fun _ _ => rfl, ?_⟩
  intro v
  rw [Item.ofGroup, hquery]
  simp only [Bool.false_eq_true, if_false]
  rw [hread, hnested.flat_eq]
  rfl

theorem reads_test {test : Test} (h : IsColumnTest test) :
    Reads full .operand (tokens test.operand) (fun v => TestHolds v test) := by
  cases test with
  | between field low high =>
      exact reads_range field low high
  | oneOf operand values =>
      cases values with
      | nil =>
          refine ⟨[.token (.number ['1']), .token (.sign ['=']), .token (.number ['2'])], ?_,
            by simp, by decide, fun v => ?_⟩
          · exact .token (by decide) (by decide) (.token (by decide) (by decide)
              (.token (by decide) (by decide) .nil))
          · simp [Grade.reading, readOperand, Text.natural?, Text.digitsFrom?, Text.digit?,
              Formula.Holds, TestHolds]
      | cons value values =>
          exact reads_atom (solid_test h (by simp) (by simp))
  | same left right =>
      exact reads_atom (solid_test h (by simp) (by simp))
  | compare operand comparison value =>
      exact reads_atom (solid_test h (by simp) (by simp))
  | equals operand value =>
      exact reads_atom (solid_test h (by simp) (by simp))
  | like operand pattern =>
      exact reads_atom (solid_test h (by simp) (by simp))

theorem reads_tests {tests : List Test} (hne : tests ≠ [])
    (h : forall test, test ∈ tests -> IsColumnTest test) :
    Reads full .conjunction (tokens (joined " AND " (tests.map Test.operand)))
      (fun v => forall test, test ∈ tests -> TestHolds v test) := by
  induction tests with
  | nil =>
      exact absurd rfl hne
  | cons test tests ih =>
      have htest : Reads full .operand (tokens test.operand) (fun v => TestHolds v test) :=
        reads_test (h test List.mem_cons_self)
      cases tests with
      | nil =>
          simpa [joined, List.intercalate] using htest.loosen .conjunction
      | cons second tests =>
          have hrest := ih (by simp) fun other hother => h other (List.mem_cons_of_mem _ hother)
          have hsplit : tokens (joined " AND " ((test :: second :: tests).map Test.operand)) =
              tokens test.operand ++ .word "AND".toList ::
                tokens (joined " AND " ((second :: tests).map Test.operand)) := by
            simp [joined, List.intercalate]
          rw [hsplit]
          have hjoin := (htest.loosen .conjunction).join .conjunction hrest
          exact hjoin.congr fun v => List.forall_mem_cons.symm

/-!
# Lookups
-/

theorem wherePart_eq {before during after : List Item} (hbefore : Without ["WHERE"] before)
    (hduring : Without ["ORDER"] during)
    (hafter : forall item, after.head? = some item -> isKeyword "ORDER" item = true) :
    wherePart (before ++ .token (.word "WHERE".toList) :: (during ++ after)) = during := by
  have hwhere : isKeyword "WHERE" (.token (.word "WHERE".toList)) = true := rfl
  have hskip : forall item, item ∈ before -> (!isKeyword "WHERE" item) = true := by
    intro item hitem
    rw [hbefore item hitem "WHERE" (by simp)]
    rfl
  have htake : forall item, item ∈ during -> (!isKeyword "ORDER" item) = true := by
    intro item hitem
    rw [hduring item hitem "ORDER" (by simp)]
    rfl
  unfold wherePart
  rw [List.dropWhile_append_of_pos hskip, List.dropWhile_cons_of_neg (by rw [hwhere]; decide),
    List.drop_one, List.tail_cons, List.takeWhile_append_of_pos htake]
  cases after with
  | nil =>
      simp
  | cons item after =>
      rw [List.takeWhile_cons_of_neg (by simp [hafter item rfl]), List.append_nil]

theorem solid_join (join : Option (String × Field × Field)) :
    Solid full 0 (tokens (joinPieces join)) := by
  cases join with
  | none =>
      exact solid_plain rfl
  | some join =>
      rcases join with ⟨table, left, right⟩
      have hinner : (Piece.code " INNER JOIN ").tokens.all isPlain = true := rfl
      have hon : (Piece.code " ON ").tokens.all isPlain = true := rfl
      have hsame : Solid full 4 (tokens (Test.same left right).pieces) :=
        solid_test trivial (by simp) (by simp)
      exact (((hsame.cons hon).cons (plain_name table)).cons hinner).mono (Nat.zero_le _)

theorem nested_order (field : Field) {last : Piece} (hlast : last.tokens.all isPlain = true) :
    exists items, Nested full (tokens (.code " ORDER BY " :: field.pieces ++ [last])) items ∧
      forall item, items.head? = some item -> isKeyword "ORDER" item = true := by
  have horder : (Piece.code " ORDER BY ").tokens =
      [.word "ORDER".toList, .word "BY".toList] := rfl
  have hfield : Solid full 3 (tokens field.pieces) := solid_field field
  have hnothing : Solid full 0 (tokens []) := solid_plain rfl
  rcases hfield.pieces (hnothing.cons hlast) with ⟨items, hitems, _, _⟩
  refine ⟨.token (.word "ORDER".toList) :: .token (.word "BY".toList) :: items, ?_, ?_⟩
  · rw [List.cons_append, tokens_cons, horder]
    exact (hitems.word _).word _
  · intro item hitem
    cases hitem
    rfl

private theorem nested_first (first : Option Field) :
    exists items, Nested full (tokens (firstPieces first)) items ∧
      forall item, items.head? = some item -> isKeyword "ORDER" item = true := by
  cases first with
  | none =>
      exact ⟨[], .nil, by simp⟩
  | some field =>
      exact nested_order field rfl

theorem reads_lookup {lookup : Lookup} (hne : lookup.tests ≠ [])
    (h : forall test, test ∈ lookup.tests -> IsColumnTest test) :
    exists items, Nested full (tokens lookup.pieces) items ∧ isQuery items = true ∧
      items ≠ [] ∧
        forall v, (readDisjunction (wherePart items)).Holds v <->
          forall test, test ∈ lookup.tests -> TestHolds v test := by
  have hselect : (Piece.code "SELECT ").tokens = [.word "SELECT".toList] := rfl
  have hfrom : (Piece.code " FROM ").tokens.all isPlain = true := rfl
  have hshown : Solid full (operandItems lookup.shown) (tokens lookup.shown.pieces) :=
    solid_operand lookup.shown
  have hjoin : Solid full 0 (tokens (joinPieces lookup.join)) := solid_join lookup.join
  have htests : Reads full .disjunction
      (tokens (joined " AND " (lookup.tests.map Test.operand)))
      (fun v => forall test, test ∈ lookup.tests -> TestHolds v test) :=
    (reads_tests hne h).part .disjunction
  rcases hshown.pieces ((hjoin.cons (plain_name lookup.table)).cons hfrom) with
    ⟨before, hbefore, _, hwithoutBefore⟩
  rcases htests with ⟨during, hduring, hneDuring, hwithoutDuring, hholds⟩
  rcases @nested_first full lookup.first with ⟨after, hafter, horder⟩
  refine ⟨.token (.word "SELECT".toList) :: before ++
    .token (.word "WHERE".toList) :: (during ++ after), ?_, rfl, by simp, ?_⟩
  · have hsplit : tokens lookup.pieces =
        .word "SELECT".toList :: tokens (lookup.shown.pieces ++
          .code " FROM " :: .name lookup.table :: joinPieces lookup.join) ++
          .word "WHERE".toList :: (tokens (joined " AND " (lookup.tests.map Test.operand)) ++
            tokens (firstPieces lookup.first)) := by
      rw [lookup_pieces, testPieces]
      simp [hselect]
    rw [hsplit]
    exact (hbefore.append ((hduring.append hafter).word _)).word _
  · intro v
    have hwherePart := wherePart_eq
      ((hwithoutBefore.weaken (by decide)).cons
        (by decide : forall keyword, keyword ∈ ["WHERE"] ->
          isKeyword keyword (.token (.word "SELECT".toList)) = false))
      (hwithoutDuring.weaken (by decide)) horder
    rw [hwherePart]
    exact hholds v

/-- A test that some row meets. -/
def TestPossible : Test -> Prop
  | .oneOf _ [] => False
  | _ => True

private theorem testHolds_true (test : Test) :
    TestHolds (fun _ => true) test <-> TestPossible test := by
  cases test with
  | oneOf operand values =>
      cases values <;> simp [TestHolds, TestPossible]
  | _ =>
      simp [TestHolds, TestPossible]

private theorem TestHolds.possible {v : List Token -> Bool} {test : Test} (h : TestHolds v test) :
    TestPossible test := by
  cases test with
  | oneOf operand values =>
      cases values with
      | nil =>
          exact h
      | cons value values =>
          trivial
  | _ =>
      trivial

/-- Rows are found unless a test is a choice from no values. -/
theorem reads_exists {lookup : Lookup} (hne : lookup.tests ≠ [])
    (h : forall test, test ∈ lookup.tests -> IsColumnTest test) :
    Reads full .operand (tokens (Condition.exists lookup).pieces)
      (fun v => v (tokens (Condition.exists lookup).pieces) = true ∧
        forall test, test ∈ lookup.tests -> TestPossible test) := by
  have hexists : (Piece.code "EXISTS(").tokens = [.word "EXISTS".toList, opening] := rfl
  have htokens : tokens (Condition.exists lookup).pieces =
      .word "EXISTS".toList :: (opening :: tokens lookup.pieces ++ [closing]) := by
    simp [Condition.pieces, hexists]
  rcases @reads_lookup full lookup hne h with ⟨items, hnested, hquery, hneItems, hholds⟩
  rw [htokens]
  refine ⟨[.token (.word "EXISTS".toList), .ofGroup items],
    (hnested.single_group hneItems).word _, by simp, ?_, ?_⟩
  · exact ((without_nil _).cons fun _ _ => rfl).cons (by decide)
  · intro v
    have hread : readOperand [.token (.word "EXISTS".toList), .ofGroup items] =
        .lookup (.word "EXISTS".toList :: opening :: tokens lookup.pieces ++ [closing])
          (readDisjunction (wherePart items)) := by
      rw [Item.ofGroup, hquery, hnested.flat_eq]
      rfl
    rw [Grade.reading, hread, Formula.Holds]
    refine and_congr Iff.rfl ⟨?_, ?_⟩
    · intro h test htest
      rcases h with ⟨w, hw⟩
      exact TestHolds.possible ((hholds w).mp hw test htest)
    · intro hpossible
      exact ⟨fun _ => true, (hholds _).mpr fun test htest =>
        (testHolds_true test).mpr (hpossible test htest)⟩

theorem reads_figure {lookup : Lookup} (hne : lookup.tests ≠ [])
    (h : forall test, test ∈ lookup.tests -> IsColumnTest test) (comparison : Comparison)
    (value : Literal) :
    Reads full .operand (tokens (Condition.figure lookup comparison value).pieces)
      (fun v => v (tokens (Condition.figure lookup comparison value).pieces) = true) := by
  have hliteral : Solid full 1 (tokens value.pieces) := solid_literal value
  rcases @reads_lookup full lookup hne h with ⟨items, hnested, _, hneItems, _⟩
  rcases hliteral with ⟨zs, hzs, _, hwithout⟩
  have hgroup := (hnested.single_group hneItems).single_group (by simp)
  rw [← tokens_parenthesized, ← tokens_parenthesized] at hgroup
  have hcompare : exists t, isPlain t = true ∧
      (Piece.code (comparisonSign comparison)).tokens = [t] := by
    cases comparison with
    | gt =>
        exact ⟨.sign ['>'], rfl, rfl⟩
    | gte =>
        exact ⟨.sign ['>', '='], rfl, rfl⟩
    | lte =>
        exact ⟨.sign ['<', '='], rfl, rfl⟩
  rcases hcompare with ⟨t, ht, htokens⟩
  have hparenthesis := isPlain_parenthesis ht
  have hall := hgroup.append (.token hparenthesis.1 hparenthesis.2 hzs)
  have hpieces : tokens (Condition.figure lookup comparison value).pieces =
      tokens (parenthesized (parenthesized lookup.pieces)) ++ t :: tokens value.pieces := by
    simp [Condition.pieces, htokens]
  rw [← hpieces] at hall
  refine ⟨_, hall, by simp, ?_, ?_⟩
  · exact (hwithout.cons (isPlain_keyword ht)).cons fun _ _ => rfl
  · intro v
    have hread : forall group : List Item, readOperand (.ofGroup group :: .token t :: zs) =
        .atom (flat (.ofGroup group :: .token t :: zs)) := by
      intro group
      rw [Item.ofGroup]
      cases isQuery group <;> rfl
    rw [Grade.reading, List.singleton_append, hread, ← List.singleton_append, hall.flat_eq]
    rfl

end Reader
end Statement
end Audience
