import Audience.Proofs.Numerals
import Audience.Proofs.Quoting
import Audience.Proofs.Restriction

/-!
# Statements are read piece by piece

The tokens of a statement are the tokens of its pieces.  A piece of code ends between two
tokens; a text, a name or a number ends where a space, a comma or a closing parenthesis
comes next, and one of these always does.
-/

namespace Audience
namespace Statement

open Lexer

/-- The tokens of a piece that is read by itself. -/
def Piece.tokens (piece : Piece) : List Token :=
  lex piece.chars

def tokens (pieces : List Piece) : List Token :=
  pieces.flatMap Piece.tokens

/-- Pieces that can be read one by one before a space, a comma or a closing parenthesis. -/
def Separable (pieces : List Piece) : Prop :=
  forall rest, Breaks rest -> lex (chars pieces ++ rest) = tokens pieces ++ lex rest

/-- A piece that ends between two tokens. -/
def Piece.IsClosed (piece : Piece) : Prop :=
  (run .between piece.chars).2 = .between

/-- A piece that begins with a space, a comma or a closing parenthesis. -/
def Piece.IsBreak (piece : Piece) : Prop :=
  piece.chars.head?.any isBreak = true

@[simp] theorem tokens_nil : tokens [] = [] := rfl

@[simp] theorem tokens_cons (piece : Piece) (pieces : List Piece) :
    tokens (piece :: pieces) = piece.tokens ++ tokens pieces := rfl

@[simp] theorem tokens_append (pieces others : List Piece) :
    tokens (pieces ++ others) = tokens pieces ++ tokens others := by
  unfold tokens
  exact List.flatMap_append

theorem tokens_code (words : String) : tokens [.code words] = lex words.toList :=
  List.append_nil _

@[simp] theorem tokens_close : (Piece.code ")").tokens = [closing] := rfl

@[simp] theorem tokens_and : (Piece.code " AND ").tokens = [.word "AND".toList] := rfl

@[simp] theorem tokens_where : (Piece.code " WHERE ").tokens = [.word "WHERE".toList] := rfl

theorem tokens_between (first last : Piece) (ps : List Piece) :
    tokens (first :: ps ++ [last]) = first.tokens ++ (tokens ps ++ last.tokens) := by
  simp

theorem breaks_nil : Breaks [] := by
  intro c hc
  cases hc

theorem Separable.lex_eq {pieces : List Piece} (h : Separable pieces) :
    lex (chars pieces) = tokens pieces := by
  simpa [lex, scan, run, flush] using h [] breaks_nil

theorem Piece.IsBreak.breaks {piece : Piece} (h : piece.IsBreak) (pieces : List Piece) :
    Breaks (Statement.chars (piece :: pieces)) := by
  intro c hc
  rw [chars_cons] at hc
  unfold Piece.IsBreak at h
  cases hpiece : piece.chars with
  | nil =>
      rw [hpiece] at h
      cases h
  | cons d tail =>
      rw [hpiece] at h hc
      cases hc
      exact h

theorem breaks_append {s t : List Char} (hs : Breaks s) (ht : Breaks t) :
    Breaks (s ++ t) := by
  cases s with
  | nil =>
      exact ht
  | cons c s =>
      exact hs

/-!
# Composing pieces
-/

theorem separable_nil : Separable [] := by
  intro rest hrest
  rfl

theorem separable_single {piece : Piece}
    (h : isSettled (run .between piece.chars).2 = true) :
    Separable [piece] := by
  intro rest hrest
  simpa [Piece.tokens] using lex_append_of_settled h hrest

theorem Separable.cons {piece : Piece} {pieces : List Piece} (hpiece : piece.IsClosed)
    (h : Separable pieces) :
    Separable (piece :: pieces) := by
  intro rest hrest
  simp [lex_append_of_between hpiece, h rest hrest, Piece.tokens]

theorem Separable.append {pieces others : List Piece} (h : Separable pieces)
    (hbreak : Breaks (chars others)) (hothers : Separable others) :
    Separable (pieces ++ others) := by
  intro rest hrest
  simp [h _ (breaks_append hbreak hrest), hothers rest hrest]

theorem Separable.around {pieces others : List Piece} (h : Separable pieces) (piece : Piece)
    (hbreak : piece.IsBreak) (hclosed : piece.IsClosed) (hothers : Separable others) :
    Separable (pieces ++ piece :: others) :=
  h.append (hbreak.breaks others) (hothers.cons hclosed)

theorem Separable.between {pieces : List Piece} {first last : Piece} (h : Separable pieces)
    (hfirst : first.IsClosed) (hbreak : last.IsBreak) (hlast : last.IsClosed) :
    Separable (first :: pieces ++ [last]) :=
  (h.around last hbreak hlast separable_nil).cons hfirst

theorem Separable.parenthesized {pieces : List Piece} (h : Separable pieces) :
    Separable (parenthesized pieces) :=
  h.between rfl rfl rfl

theorem separable_joined {words : String} {parts : List (List Piece)}
    (hbreak : (Piece.code words).IsBreak) (hclosed : (Piece.code words).IsClosed)
    (h : forall part, part ∈ parts -> Separable part) :
    Separable (joined words parts) := by
  unfold joined
  induction parts with
  | nil =>
      exact separable_nil
  | cons part parts ih =>
      have hpart := h part List.mem_cons_self
      have hparts := ih fun other hother => h other (List.mem_cons_of_mem part hother)
      cases parts with
      | nil =>
          simpa [List.intercalate] using hpart
      | cons other parts =>
          have hsplit : List.intercalate [.code words] (part :: other :: parts) =
              part ++ .code words :: List.intercalate [.code words] (other :: parts) := by
            simp [List.intercalate]
          rw [hsplit]
          exact hpart.around (.code words) hbreak hclosed hparts

/-!
# Values and columns
-/

theorem separable_text (s : String) : Separable [.text s] :=
  separable_single (run_quotedText s.toList).1

@[simp] theorem tokens_text (s : String) : (Piece.text s).tokens = [textToken s.toList] :=
  (run_quotedText s.toList).2

theorem separable_name (s : String) : Separable [.name s] := by
  apply separable_single
  rw [Piece.chars, run_quotedName]
  rfl

theorem digit_cases {c : Char} (h : c.isDigit = true) :
    c = '0' ∨ c = '1' ∨ c = '2' ∨ c = '3' ∨ c = '4' ∨ c = '5' ∨ c = '6' ∨ c = '7' ∨
      c = '8' ∨ c = '9' := by
  have hrange : 48 <= c.toNat ∧ c.toNat <= 57 := by
    simpa [Char.isDigit, UInt32.le_iff_toNat_le] using h
  have hnumber : c.toNat = 48 ∨ c.toNat = 49 ∨ c.toNat = 50 ∨ c.toNat = 51 ∨ c.toNat = 52 ∨
      c.toNat = 53 ∨ c.toNat = 54 ∨ c.toNat = 55 ∨ c.toNat = 56 ∨ c.toNat = 57 := by
    omega
  have hchar : forall n, c.toNat = n -> c = Char.ofNat n := by
    intro n h
    rcases h with rfl
    exact (Char.ofNat_toNat c).symm
  exact hnumber.imp (hchar 48) (Or.imp (hchar 49) (Or.imp (hchar 50) (Or.imp (hchar 51)
    (Or.imp (hchar 52) (Or.imp (hchar 53) (Or.imp (hchar 54) (Or.imp (hchar 55)
      (Or.imp (hchar 56) (hchar 57)))))))))

theorem start_digit {c : Char} (h : c.isDigit = true) : start c = ([], .number [c]) := by
  rcases digit_cases h with rfl | rfl | rfl | rfl | rfl | rfl | rfl | rfl | rfl | rfl <;> rfl

theorem step_minus_digit {c : Char} (h : c.isDigit = true) :
    step (.operator ['-']) c = ([.sign ['-']], .number [c]) := by
  rcases digit_cases h with rfl | rfl | rfl | rfl | rfl | rfl | rfl | rfl | rfl | rfl <;> rfl

theorem run_number {s : List Char} (h : Number.Figures s) (recent : List Char) :
    run (.number recent) s = ([], .number (s.reverse ++ recent)) := by
  induction s generalizing recent with
  | nil =>
      rfl
  | cons c s ih =>
      have hfigure := h c List.mem_cons_self
      have hc : isNumber c = true := by
        simp only [Number.isFigure, Bool.or_eq_true] at hfigure
        rcases hfigure with hfigure | hfigure
        · simp [isNumber, hfigure]
        · simp [isNumber, hfigure]
      have hrest := ih (fun d hd => h d (List.mem_cons_of_mem c hd)) (c :: recent)
      rw [run_cons, step, if_pos hc, hrest]
      simp

theorem run_unsigned {s : List Char} (h : Number.IsUnsigned s) :
    run .between s = ([], .number s.reverse) := by
  rcases h with ⟨c, rest, rfl, hc, hrest⟩
  rw [run_cons, step, start_digit hc, run_number hrest]
  simp

theorem run_negative {s : List Char} (h : Number.IsUnsigned s) :
    run .between ('-' :: s) = ([.sign ['-']], .number s.reverse) := by
  have hminus : step .between '-' = ([], .operator ['-']) := rfl
  rcases h with ⟨c, rest, rfl, hc, hrest⟩
  rw [run_cons, hminus, run_cons, step_minus_digit hc, run_number hrest]
  simp

private theorem separable_numeral {words : String} (h : Number.IsNumeral words.toList) :
    Separable [.code words] := by
  apply separable_single
  rw [Piece.chars]
  generalize words.toList = s at h
  cases h with
  | unsigned h =>
      rw [run_unsigned h]
      rfl
  | negative h =>
      rw [run_negative h]
      rfl
  | infinite =>
      rfl
  | negativeInfinite =>
      rfl
  | undefined =>
      rfl

theorem separable_literal (value : Literal) : Separable value.pieces := by
  cases value with
  | text s =>
      exact separable_text s
  | integer n =>
      exact separable_numeral (Number.isNumeral_int n)
  | float x =>
      exact separable_numeral (Number.isNumeral_float x)
  | amount d =>
      exact separable_numeral (Number.isNumeral_amount d)

theorem separable_field (field : Field) : Separable field.pieces := by
  intro rest hrest
  have hpoint : forall recent, step (.nameQuote recent) '.' =
      ([.name recent.reverse, .sign ['.']], .between) := fun recent => rfl
  have hcolumn := separable_name field.column rest hrest
  simp only [chars_cons, chars_nil, List.append_nil] at hcolumn
  have hsplit : chars field.pieces ++ rest =
      quotedName field.table.toList ++ '.' :: ((Piece.name field.column).chars ++ rest) := by
    simp [Field.pieces, Piece.chars]
  have htokens : tokens field.pieces =
      [nameToken field.table.toList, .sign ['.']] ++ tokens [.name field.column] := by
    rw [Field.pieces, tokens_cons, Piece.tokens, Piece.chars, lex_quotedName]
    rfl
  have hscan : scan .between ((Piece.name field.column).chars ++ rest) =
      tokens [.name field.column] ++ lex rest := hcolumn
  rw [hsplit, htokens, lex, scan_append, run_quotedName, scan, run_cons, hpoint]
  simp only [List.reverse_reverse, List.nil_append, List.append_assoc]
  rw [← scan, hscan]
  rfl

/-!
# Operands and tests
-/

theorem separable_operand (operand : Operand) : Separable operand.pieces := by
  induction operand with
  | field f =>
      exact separable_field f
  | one =>
      exact separable_single rfl
  | asText f =>
      exact (separable_field f).between rfl rfl rfl
  | asTextOrEmpty f =>
      exact (separable_field f).between rfl rfl rfl
  | spaced f g =>
      have hboth := (separable_field f).around (.code ", ' ', ") rfl rfl
        ((separable_field g).around (.code ")") rfl rfl separable_nil)
      exact hboth.cons rfl
  | lower operand ih =>
      exact ih.between rfl rfl rfl
  | count f =>
      exact (separable_field f).between rfl rfl rfl
  | sumOrZero f =>
      exact (separable_field f).between rfl rfl rfl

theorem comparisonSign_isBreak (comparison : Comparison) :
    (Piece.code (comparisonSign comparison)).IsBreak := by
  cases comparison <;> rfl

theorem comparisonSign_isClosed (comparison : Comparison) :
    (Piece.code (comparisonSign comparison)).IsClosed := by
  cases comparison <;> rfl

theorem separable_values (values : List Literal) :
    Separable (joined ", " (values.map Literal.pieces)) := by
  have hbreak : (Piece.code ", ").IsBreak := rfl
  apply separable_joined hbreak rfl
  intro part hpart
  rcases List.mem_map.mp hpart with ⟨value, hvalue, rfl⟩
  exact separable_literal value

theorem separable_test (test : Test) : Separable test.pieces := by
  cases test with
  | same left right =>
      exact (separable_field left).around (.code " = ") rfl rfl (separable_field right)
  | compare operand comparison value =>
      exact (separable_operand operand).around _ (comparisonSign_isBreak comparison)
        (comparisonSign_isClosed comparison) (separable_literal value)
  | equals operand value =>
      exact (separable_operand operand).around (.code " = ") rfl rfl (separable_literal value)
  | oneOf operand values =>
      cases values with
      | nil =>
          exact separable_single rfl
      | cons value values =>
          have hlist := (separable_values (value :: values)).around (.code ")") rfl rfl
            separable_nil
          have hchoice := (separable_operand operand).around (.code " IN (") rfl rfl hlist
          simpa [Test.pieces] using hchoice
  | between field low high =>
      have hrange := (separable_literal low).around (.code " AND ") rfl rfl
        (separable_literal high)
      have hbounds := (separable_field field).around (.code " BETWEEN ") rfl rfl hrange
      simpa [Test.pieces] using hbounds
  | like operand pattern =>
      exact (separable_operand operand).around (.code " LIKE ") rfl rfl (separable_text pattern)

private theorem separable_testOperand (test : Test) : Separable test.operand := by
  unfold Test.operand
  split
  · exact (separable_test _).parenthesized
  · exact separable_test test

/-!
# Lookups
-/

theorem separable_tests (tests : List Test) : Separable (testPieces tests) := by
  have hwhere : (Piece.code " WHERE ").IsClosed := rfl
  have hand : (Piece.code " AND ").IsBreak := rfl
  apply Separable.cons hwhere
  apply separable_joined hand rfl
  intro part hpart
  rcases List.mem_map.mp hpart with ⟨test, htest, rfl⟩
  exact separable_testOperand test

def joinPieces : Option (String × Field × Field) -> List Piece
  | some (table, left, right) =>
      [.code " INNER JOIN ", .name table, .code " ON "] ++ (Test.same left right).pieces
  | none => []

def firstPieces : Option Field -> List Piece
  | some field => .code " ORDER BY " :: field.pieces ++ [.code " ASC LIMIT 1"]
  | none => []

theorem lookup_pieces (lookup : Lookup) :
    lookup.pieces =
      .code "SELECT " :: (lookup.shown.pieces ++ .code " FROM " :: ([.name lookup.table] ++
        (joinPieces lookup.join ++ (testPieces lookup.tests ++ firstPieces lookup.first)))) := by
  rcases lookup with ⟨shown, table, join, tests, first⟩
  cases join <;> cases first <;> simp [Lookup.pieces, joinPieces, firstPieces]

private theorem separable_first (first : Option Field) :
    Separable (firstPieces first) ∧ Breaks (chars (firstPieces first)) := by
  have horder : (Piece.code " ORDER BY ").IsBreak := rfl
  cases first with
  | none =>
      exact ⟨separable_nil, breaks_nil⟩
  | some field =>
      have hlimit : (Piece.code " ASC LIMIT 1").IsBreak := rfl
      have hfield := (separable_field field).append
        (hlimit.breaks []) (separable_single rfl)
      exact ⟨hfield.cons rfl, horder.breaks _⟩

private theorem separable_join (join : Option (String × Field × Field)) :
    Separable (joinPieces join) ∧ Breaks (chars (joinPieces join)) := by
  have hjoin : (Piece.code " INNER JOIN ").IsBreak := rfl
  cases join with
  | none =>
      exact ⟨separable_nil, breaks_nil⟩
  | some join =>
      rcases join with ⟨table, left, right⟩
      have htable := (separable_name table).around (.code " ON ") rfl rfl
        (separable_test (.same left right))
      exact ⟨htable.cons rfl, hjoin.breaks _⟩

theorem separable_lookup (lookup : Lookup) : Separable lookup.pieces := by
  have hselect : (Piece.code "SELECT ").IsClosed := rfl
  have hwhere : (Piece.code " WHERE ").IsBreak := rfl
  rcases separable_first lookup.first with ⟨hfirst, hbreakFirst⟩
  rcases separable_join lookup.join with ⟨hjoin, hbreakJoin⟩
  have htests := (separable_tests lookup.tests).append hbreakFirst hfirst
  have hbreakTests : Breaks (chars (testPieces lookup.tests ++ firstPieces lookup.first)) :=
    hwhere.breaks _
  have hrows := hjoin.append hbreakTests htests
  have hbreakRows : Breaks (chars (joinPieces lookup.join ++
      (testPieces lookup.tests ++ firstPieces lookup.first))) := by
    rw [chars_append]
    exact breaks_append hbreakJoin hbreakTests
  have htable := (separable_name lookup.table).append hbreakRows hrows
  rw [lookup_pieces]
  exact ((separable_operand lookup.shown).around (.code " FROM ") rfl rfl htable).cons hselect

end Statement
end Audience
