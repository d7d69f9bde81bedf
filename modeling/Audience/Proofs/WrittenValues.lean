import Audience.Proofs.ExpressionReading

/-!
# Written values are read back

Whole numbers, amounts, times and texts are written so that a database reads the value that
was written.  The one exception is a text with the character number zero, which no database
text holds.

## Digits
-/

namespace Audience

open Number Time

namespace Text

theorem digitsFrom_eq {s : List Char} (h : Digits s) (start : Nat) :
    digitsFrom? start s = some (Nat.ofDigitChars 10 s start) := by
  induction s generalizing start with
  | nil =>
      rfl
  | cons c s ih =>
      have hc : digit? c = some (c.toNat - '0'.toNat) := if_pos (h c List.mem_cons_self)
      have hs := ih fun d hd => h d (List.mem_cons_of_mem c hd)
      rw [digitsFrom?, hc, Nat.ofDigitChars_cons]
      exact hs _

theorem natural_eq {s : List Char} (h : Digits s) (hne : s ≠ []) :
    natural? s = some (Nat.ofDigitChars 10 s 0) := by
  cases s with
  | nil =>
      exact absurd rfl hne
  | cons c s =>
      exact digitsFrom_eq h 0

theorem ofDigitChars_toString (n : Nat) :
    Nat.ofDigitChars 10 (toString n).toList 0 = n := by
  rw [Nat.toString_eq_repr, Nat.toList_repr]
  exact Nat.ofDigitChars_toDigits (by decide) (by decide)

theorem toString_ne_nil (n : Nat) : (toString n).toList ≠ [] := by
  rw [Nat.toString_eq_repr, Nat.toList_repr]
  exact Nat.toDigits_ne_nil

theorem natural_toString (n : Nat) : natural? (toString n).toList = some n := by
  rw [natural_eq (digits_nat n) (toString_ne_nil n), ofDigitChars_toString]

@[simp] theorem ofDigitChars_padded (width n : Nat) :
    Nat.ofDigitChars 10 (padded width n).toList 0 = n := by
  rw [padded, String.toList_append, String.toList_ofList, Nat.ofDigitChars_append,
    Nat.ofDigitChars_replicate_zero, Nat.mul_zero, ofDigitChars_toString]

@[simp] theorem natural_padded (width n : Nat) : natural? (padded width n).toList = some n := by
  have hne : (padded width n).toList ≠ [] := by
    rw [padded, String.toList_append]
    exact List.append_ne_nil_of_right_ne_nil _ (toString_ne_nil n)
  rw [natural_eq (digits_padded width n) hne, ofDigitChars_padded]

theorem length_padded {width n : Nat} (hwidth : 0 < width) (h : n < tenTo width) :
    (padded width n).toList.length = width := by
  have hdigits : (toString n).length <= width := by
    rw [Nat.toString_eq_repr]
    exact (Nat.length_repr_le_iff hwidth).mpr h
  rw [padded, String.toList_append, String.toList_ofList, List.length_append,
    List.length_replicate, String.length_toList]
  exact Nat.sub_add_cancel hdigits

end Text

theorem Number.Digits.notMem {s : List Char} (h : Digits s) {c : Char}
    (hc : c.isDigit = false) :
    c ∉ s := by
  intro hmem
  rw [h c hmem] at hc
  cases hc

/-!
## Numbers
-/

def Quantity.value (q : Quantity) : ℚ :=
  q.units / 10 ^ q.scale

@[simp] theorem Quantity.value_ofInt (n : Int) : (Quantity.ofInt n).value = n := by
  simp [value, ofInt]

theorem Quantity.le_iff (p q : Quantity) : p.le q = true <-> p.value <= q.value := by
  have hpow : forall k : Nat, (0 : ℚ) < 10 ^ k := fun k => by positivity
  rw [value, value, div_le_div_iff₀ (hpow _) (hpow _)]
  rw [le, decide_eq_true_iff]
  exact_mod_cast Iff.rfl

theorem Quantity.lt_iff (p q : Quantity) : p.lt q = true <-> p.value < q.value := by
  have hpow : forall k : Nat, (0 : ℚ) < 10 ^ k := fun k => by positivity
  rw [value, value, div_lt_div_iff₀ (hpow _) (hpow _)]
  rw [lt, decide_eq_true_iff]
  exact_mod_cast Iff.rfl

namespace Sql

open Statement Lexer Text

/-- A text that a database can hold. -/
def Storable (s : String) : Prop :=
  '\x00' ∉ s.toList

instance (s : String) : Decidable (Storable s) := by
  unfold Storable
  infer_instance

namespace Reader

theorem lex_unsigned {s : List Char} (h : IsUnsigned s) : lex s = [.number s] := by
  rw [lex, scan, run_unsigned h]
  simp [flush]

theorem lex_negative {s : List Char} (h : IsUnsigned s) :
    lex ('-' :: s) = [.sign ['-'], .number s] := by
  rw [lex, scan, run_negative h]
  simp [flush]

theorem numeral_whole (n : Nat) : numeral? (toString n).toList = some (.integer n) := by
  have hpoint : '.' ∉ (toString n).toList := (digits_nat n).notMem rfl
  rw [numeral?, splitOn_of_notMem hpoint]
  dsimp only
  rw [natural_toString]
  rfl

theorem numeral_point (whole : Nat) {scale fraction : Nat} (hscale : 0 < scale)
    (h : fraction < tenTo scale) :
    numeral? ((toString whole).toList ++ '.' :: (padded scale fraction).toList) =
      some (.number (whole + fraction / 10 ^ scale)) := by
  have hwhole : '.' ∉ (toString whole).toList := (digits_nat whole).notMem rfl
  have hdecimals : '.' ∉ (padded scale fraction).toList := (digits_padded _ _).notMem rfl
  rw [numeral?, splitOn_append hwhole, splitOn_of_notMem hdecimals]
  dsimp only
  rw [natural_toString, natural_padded, length_padded hscale h]
  rfl

theorem constant_unsigned {s : List Char} {value : Value} (h : IsUnsigned s)
    (hvalue : numeral? s = some value) (rest : List Token) :
    constant? (lex s ++ rest) = some (value, rest) := by
  rw [lex_unsigned h]
  simp [constant?, hvalue]

theorem constant_negative {s : List Char} {value : Value} (h : IsUnsigned s)
    (hvalue : numeral? s = some value) (rest : List Token) :
    constant? (lex ('-' :: s) ++ rest) = some (negative value, rest) := by
  rw [lex_negative h]
  simp [constant?, hvalue]

theorem constant_integer (n : Int) (rest : List Token) :
    constant? (lex (toString n).toList ++ rest) = some (.integer n, rest) := by
  cases n with
  | ofNat n =>
      exact constant_unsigned (isUnsigned_nat n) (numeral_whole n) rest
  | negSucc n =>
      have hwritten : (toString (Int.negSucc n)).toList = '-' :: (toString (n + 1)).toList := by
        simp [Int.toString_eq_repr, Int.repr]
      rw [hwritten]
      exact constant_negative (isUnsigned_nat _) (numeral_whole _) rest

end Reader

def amountValue (d : Decimal) : Value :=
  if d.scale = 0 then .integer d.units else .number d.quantity.value

theorem number_amountValue (d : Decimal) : (amountValue d).number? = some d.quantity.value := by
  unfold amountValue
  split
  case isTrue h =>
    simp [Value.number?, Quantity.value, Decimal.quantity, h]
  case isFalse h =>
    rfl

namespace Reader

def magnitudeText (d : Decimal) : String :=
  if d.scale == 0 then toString d.units.natAbs
  else
    toString (d.units.natAbs / tenTo d.scale) ++ "." ++
      padded d.scale (d.units.natAbs % tenTo d.scale)

theorem text_eq_magnitude (d : Decimal) :
    d.text = (if d.units < 0 then "-" else "") ++ magnitudeText d := by
  unfold Decimal.text magnitudeText
  dsimp only
  split <;> simp [String.append_assoc]

theorem isUnsigned_magnitude (d : Decimal) : IsUnsigned (magnitudeText d).toList := by
  unfold magnitudeText
  split
  · exact isUnsigned_nat _
  · rw [String.toList_append, String.toList_append, List.append_assoc]
    exact (isUnsigned_nat _).append (figures_point (digits_padded _ _).figures)

def magnitudeValue (d : Decimal) : Value :=
  if d.scale = 0 then .integer d.units.natAbs
  else .number ((d.units.natAbs : ℚ) / 10 ^ d.scale)

private theorem numeral_magnitude (d : Decimal) :
    numeral? (magnitudeText d).toList = some (magnitudeValue d) := by
  unfold magnitudeText magnitudeValue
  by_cases h : d.scale = 0
  · rw [if_pos (beq_iff_eq.mpr h), if_pos h]
    exact numeral_whole _
  · have hscale : 0 < d.scale := Nat.pos_of_ne_zero h
    have hfraction : d.units.natAbs % tenTo d.scale < tenTo d.scale :=
      Nat.mod_lt _ (tenTo_pos _)
    have hvalue : ((d.units.natAbs / tenTo d.scale : Nat) : ℚ) +
        ((d.units.natAbs % tenTo d.scale : Nat) : ℚ) / 10 ^ d.scale =
          (d.units.natAbs : ℚ) / 10 ^ d.scale := by
      have hpow : (0 : ℚ) < 10 ^ d.scale := by positivity
      rw [eq_div_iff hpow.ne', add_mul, div_mul_cancel₀ _ hpow.ne']
      exact_mod_cast Nat.div_add_mod' d.units.natAbs (tenTo d.scale)
    rw [if_neg (by simpa using h), if_neg h, String.toList_append, String.toList_append,
      List.append_assoc, ← hvalue]
    exact numeral_point _ hscale hfraction

theorem constant_amount (d : Decimal) (rest : List Token) :
    constant? (lex d.text.toList ++ rest) = some (amountValue d, rest) := by
  rw [text_eq_magnitude]
  by_cases h : d.units < 0
  · have hvalue : negative (magnitudeValue d) = amountValue d := by
      have habs : (d.units.natAbs : Int) = -d.units := by omega
      have hquot : (d.units.natAbs : ℚ) = -(d.units : ℚ) := by
        rw [← Int.cast_natCast, habs, Int.cast_neg]
      unfold magnitudeValue amountValue
      split
      · rw [negative, habs, neg_neg]
      · rw [negative, hquot, neg_div, neg_neg]
        rfl
    have hread := constant_negative (isUnsigned_magnitude d) (numeral_magnitude d) rest
    rw [if_pos h, ← hvalue]
    simpa using hread
  · have hvalue : magnitudeValue d = amountValue d := by
      have habs : (d.units.natAbs : Int) = d.units := by omega
      have hquot : (d.units.natAbs : ℚ) = (d.units : ℚ) := by
        rw [← Int.cast_natCast, habs]
      rw [magnitudeValue, habs, hquot]
      rfl
    have hread := constant_unsigned (isUnsigned_magnitude d) (numeral_magnitude d) rest
    rw [if_neg h, ← hvalue]
    simpa using hread

/-!
## Texts
-/

private theorem text_textToken {s : String} (h : Storable s) :
    text? (textToken s.toList) = some s := by
  have hvalue := value_textToken h
  have hread : text? (textToken s.toList) =
      ((textToken s.toList).value?.filter fun s => !s.contains '\x00').map String.ofList := by
    unfold textToken
    split <;> rfl
  have hzero : '\x00' ∉ s.toList := h
  rw [hread, hvalue]
  simp [Option.filter, hzero]

theorem constant_text {s : String} (h : Storable s) (rest : List Token) :
    constant? (textToken s.toList :: rest) = some (.text s, rest) := by
  have hread := text_textToken h
  unfold textToken at hread ⊢
  split <;> simp_all [constant?, keyword]

end Reader
end Sql

/-!
## Times
-/

namespace Time
namespace Timestamp

open Text

/-- A whole second in one of the years that are written with four digits. -/
def IsPlain (t : Timestamp) : Prop :=
  t.nano = 0 ∧ 0 < t.date.year ∧ t.date.year <= 9999

instance (t : Timestamp) : Decidable t.IsPlain := by
  unfold IsPlain
  infer_instance

theorem padded_notMem {c : Char} (hc : c.isDigit = false) (width n : Nat) :
    c ∉ (padded width n).toList :=
  (digits_padded width n).notMem hc

theorem yearText_eq {t : Timestamp} (h : t.IsPlain) :
    yearText t.date.year = padded 4 t.date.year.natAbs := by
  rw [yearText, if_neg (by have := h.2.1; omega), if_neg (by have := h.2.2; omega)]

theorem toList_dateText {t : Timestamp} (h : t.IsPlain) :
    t.dateText.toList = (padded 4 t.date.year.natAbs).toList ++ '-' ::
      ((padded 2 t.date.month).toList ++ '-' :: (padded 2 t.date.day).toList) := by
  rw [dateText, yearText_eq h]
  simp

theorem toList_clockText {t : Timestamp} (h : t.IsPlain) :
    t.clockText.toList = (padded 2 (t.second / 3600)).toList ++ ':' ::
      ((padded 2 (t.second / 60 % 60)).toList ++ ':' :: (padded 2 (t.second % 60)).toList) := by
  rw [clockText, h.1]
  simp

theorem splitOn_dateText {t : Timestamp} (h : t.IsPlain) :
    splitOn '-' t.dateText.toList =
      [(padded 4 t.date.year.natAbs).toList, (padded 2 t.date.month).toList,
        (padded 2 t.date.day).toList] := by
  rw [toList_dateText h, splitOn_append (padded_notMem rfl _ _),
    splitOn_append (padded_notMem rfl _ _), splitOn_of_notMem (padded_notMem rfl _ _)]

theorem splitOn_clockText {t : Timestamp} (h : t.IsPlain) :
    splitOn ':' t.clockText.toList =
      [(padded 2 (t.second / 3600)).toList, (padded 2 (t.second / 60 % 60)).toList,
        (padded 2 (t.second % 60)).toList] := by
  rw [toList_clockText h, splitOn_append (padded_notMem rfl _ _),
    splitOn_append (padded_notMem rfl _ _), splitOn_of_notMem (padded_notMem rfl _ _)]

theorem splitOn_sqlText {t : Timestamp} (h : t.IsPlain) :
    splitOn ' ' t.sqlText.toList = [t.dateText.toList, t.clockText.toList] := by
  have hdate : ' ' ∉ t.dateText.toList := by
    rw [toList_dateText h]
    simp [padded_notMem]
  have hclock : ' ' ∉ t.clockText.toList := by
    rw [toList_clockText h]
    simp [padded_notMem]
  have hwritten : t.sqlText.toList = t.dateText.toList ++ ' ' :: t.clockText.toList := by
    simp [sqlText]
  rw [hwritten, splitOn_append hdate, splitOn_of_notMem hclock]

private theorem of_second {t : Timestamp} (h : t.IsPlain) :
    of? t.date (t.second / 3600 * 3600 + t.second / 60 % 60 * 60 + t.second % 60) 0 =
      some t := by
  have hsecond : t.second / 3600 * 3600 + t.second / 60 % 60 * 60 + t.second % 60 =
      t.second := by
    omega
  have hclock : IsClock t.second 0 := h.1 ▸ t.isClock
  rw [hsecond, of?, dif_pos hclock]
  simp [← h.1]

theorem storable_sqlText {t : Timestamp} (h : t.IsPlain) : Sql.Storable t.sqlText := by
  have hwritten : t.sqlText.toList = t.dateText.toList ++ ' ' :: t.clockText.toList := by
    simp [sqlText]
  rw [Sql.Storable, hwritten, toList_dateText h, toList_clockText h]
  simp [padded_notMem]

theorem readTime_sqlText {t : Timestamp} (h : t.IsPlain) :
    Sql.readTime? t.sqlText.toList = some t := by
  have hyear : (t.date.year.natAbs : Int) = t.date.year := by
    have hpos := h.2.1
    omega
  have hdate : Date.of? t.date.year.natAbs t.date.month t.date.day = some t.date := by
    rw [hyear, Date.of?, dif_pos t.date.isDate]
  have hinside : (decide (0 < t.date.year.natAbs) && decide (t.second / 3600 < 24) &&
      decide (t.second / 60 % 60 < 60) && decide (t.second % 60 < 60)) = true := by
    have hday : t.second < 86400 := t.isClock.1
    have hpos := h.2.1
    simp only [Bool.and_eq_true, decide_eq_true_eq]
    omega
  rw [Sql.readTime?, splitOn_sqlText h]
  dsimp only
  rw [splitOn_dateText h, splitOn_clockText h]
  simp only [natural_padded, Option.bind_eq_bind, Option.bind_some, hdate]
  rw [if_pos hinside, of_second h]

end Timestamp
end Time
end Audience
