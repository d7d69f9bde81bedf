import Audience.Number.Decimal
import Audience.Number.Shortest
import Audience.Statement.Rendering

/-!
# Characters of written numbers

Whole numbers, amounts and floating-point numbers are written with a digit first, then
letters, digits and points, and with a minus sign in front at most; only the floating-point
numbers that are no numbers are written as words.
-/

namespace Audience
namespace Number

def isFigure (c : Char) : Bool :=
  c.isAlphanum || c == '.'

def Figures (s : List Char) : Prop :=
  forall c, c ∈ s -> isFigure c = true

def Digits (s : List Char) : Prop :=
  forall c, c ∈ s -> c.isDigit = true

/-- A text of letters, digits and points that begins with a digit. -/
def IsUnsigned (s : List Char) : Prop :=
  exists digit rest, s = digit :: rest ∧ digit.isDigit = true ∧ Figures rest

inductive IsNumeral : List Char -> Prop where
  | unsigned {s : List Char} (h : IsUnsigned s) : IsNumeral s
  | negative {s : List Char} (h : IsUnsigned s) : IsNumeral ('-' :: s)
  | infinite : IsNumeral "inf".toList
  | negativeInfinite : IsNumeral "-inf".toList
  | undefined : IsNumeral "NaN".toList

theorem Digits.figures {s : List Char} (h : Digits s) : Figures s := by
  intro c hc
  simp [isFigure, Char.isAlphanum, h c hc]

theorem Digits.append {s t : List Char} (hs : Digits s) (ht : Digits t) : Digits (s ++ t) := by
  intro c hc
  rcases List.mem_append.mp hc with hc | hc
  · exact hs c hc
  · exact ht c hc

theorem Digits.subset {s t : List Char} (ht : Digits t) (hsub : s ⊆ t) : Digits s := by
  intro c hc
  exact ht c (hsub hc)

theorem Digits.isUnsigned {s : List Char} (h : Digits s) (hne : s ≠ []) : IsUnsigned s := by
  cases s with
  | nil =>
      exact absurd rfl hne
  | cons c rest =>
      have hrest : Digits rest := h.subset (List.subset_cons_self c rest)
      exact ⟨c, rest, rfl, h c List.mem_cons_self, hrest.figures⟩

theorem IsUnsigned.append {s t : List Char} (hs : IsUnsigned s) (ht : Figures t) :
    IsUnsigned (s ++ t) := by
  rcases hs with ⟨c, rest, rfl, hc, hrest⟩
  refine ⟨c, rest ++ t, rfl, hc, ?_⟩
  intro d hd
  rcases List.mem_append.mp hd with hd | hd
  · exact hrest d hd
  · exact ht d hd

theorem figures_point {s : List Char} (h : Figures s) : Figures ('.' :: s) := by
  intro c hc
  rcases List.mem_cons.mp hc with rfl | hc
  · rfl
  · exact h c hc

theorem digits_nat (n : Nat) : Digits (toString n).toList := by
  intro c hc
  rw [Nat.toString_eq_repr, Nat.toList_repr] at hc
  exact Nat.isDigit_of_mem_toDigits (by decide) (by decide) hc

theorem isUnsigned_nat (n : Nat) : IsUnsigned (toString n).toList := by
  apply (digits_nat n).isUnsigned
  rw [Nat.toString_eq_repr, Nat.toList_repr]
  exact Nat.toDigits_ne_nil

theorem digits_replicate_zero (n : Nat) : Digits (List.replicate n '0') := by
  intro c hc
  rw [List.eq_of_mem_replicate hc]
  rfl

theorem digits_padded (width n : Nat) : Digits (Text.padded width n).toList := by
  rw [Text.padded, String.toList_append, String.toList_ofList]
  exact (digits_replicate_zero _).append (digits_nat n)

theorem isNumeral_signed {body : String} (hbody : IsUnsigned body.toList) (negative : Bool) :
    IsNumeral ((if negative then "-" else "") ++ body).toList := by
  cases negative with
  | false =>
      simpa using IsNumeral.unsigned hbody
  | true =>
      simpa using IsNumeral.negative hbody

theorem isNumeral_int (n : Int) : IsNumeral (toString n).toList := by
  rw [Int.toString_eq_repr]
  cases n with
  | ofNat n =>
      exact IsNumeral.unsigned (isUnsigned_nat n)
  | negSucc n =>
      simpa [Int.repr] using IsNumeral.negative (isUnsigned_nat (n + 1))

theorem isNumeral_amount (d : Decimal) : IsNumeral d.text.toList := by
  have hsign : (if d.units < 0 then "-" else "") =
      if decide (d.units < 0) = true then "-" else "" := by
    simp
  unfold Decimal.text
  dsimp only
  rw [hsign]
  split
  · exact isNumeral_signed (isUnsigned_nat _) _
  · rw [String.append_assoc, String.append_assoc]
    refine isNumeral_signed ?_ _
    rw [String.toList_append, String.toList_append]
    exact (isUnsigned_nat _).append (figures_point (digits_padded _ _).figures)

private theorem isUnsigned_shortDecimal (d : ShortDecimal) : IsUnsigned d.text.toList := by
  unfold ShortDecimal.text
  split
  · exact isUnsigned_nat _
  · have hall := (digits_replicate_zero
      ((-d.exponent).toNat + 1 - (toString d.digits).length)).append (digits_nat d.digits)
    have hlength : (-d.exponent).toNat <
        (List.replicate ((-d.exponent).toNat + 1 - (toString d.digits).length) '0' ++
          (toString d.digits).toList).length := by
      rw [List.length_append, List.length_replicate, String.length_toList]
      omega
    dsimp only
    simp only [String.toList_append, String.toList_ofList, String.append_assoc]
    apply IsUnsigned.append
    · apply (hall.subset (List.take_subset _ _)).isUnsigned
      rw [← String.length_toList, String.toList_append, String.toList_ofList]
      intro hnil
      rcases List.take_eq_nil_iff.mp hnil with hnil | hnil
      · omega
      · rw [hnil] at hlength
        exact absurd hlength (Nat.not_lt_zero _)
    · exact figures_point (hall.subset (List.drop_subset _ _)).figures

theorem isNumeral_float (x : Float) : IsNumeral (floatText x).toList := by
  unfold floatText
  split
  · exact isNumeral_signed (isUnsigned_shortDecimal _) _
  · split
    · exact .undefined
    · split
      · exact .negativeInfinite
      · exact .infinite

theorem IsUnsigned.no_parenthesis {s : List Char} (h : IsUnsigned s) : ')' ∉ s := by
  rcases h with ⟨c, rest, rfl, hc, hrest⟩
  intro hmem
  rcases List.mem_cons.mp hmem with rfl | hmem
  · cases hc
  · cases hrest ')' hmem

theorem IsNumeral.no_parenthesis {s : List Char} (h : IsNumeral s) : ')' ∉ s := by
  cases h with
  | unsigned h =>
      exact h.no_parenthesis
  | negative h =>
      simpa using h.no_parenthesis
  | infinite =>
      decide
  | negativeInfinite =>
      decide
  | undefined =>
      decide

end Number
end Audience
