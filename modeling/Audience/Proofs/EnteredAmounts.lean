import Audience.Proofs.EnteredDates
import Audience.Proofs.Usable

/-!
# Amounts as users enter them

## Plain digits

An amount in plain digits has a point among them or none, and a sign in front or none.  It
stands for the number that its digits make, counted in units of as many decimals as there are
digits behind the point.
-/

namespace Audience

open Number Text Time

namespace Decimal

/-- Digits with a point or none, the number they make, and how many stand behind the point. -/
inductive PlainDigits : List Char -> Nat -> Nat -> Prop where
  | whole {s : List Char} (h : Digits s) (hne : s ≠ []) :
      PlainDigits s (Nat.ofDigitChars 10 s 0) 0
  | point {whole fraction : List Char} (hwhole : Digits whole) (hfraction : Digits fraction)
      (hne : whole ++ fraction ≠ []) :
      PlainDigits (whole ++ '.' :: fraction) (Nat.ofDigitChars 10 (whole ++ fraction) 0)
        fraction.length

inductive PlainText : List Char -> Int -> Nat -> Prop where
  | unsigned {s : List Char} {n scale : Nat} (h : PlainDigits s n scale) : PlainText s n scale
  | plus {s : List Char} {n scale : Nat} (h : PlainDigits s n scale) : PlainText ('+' :: s) n scale
  | minus {s : List Char} {n scale : Nat} (h : PlainDigits s n scale) :
      PlainText ('-' :: s) (-n) scale

/-!
## Collecting digits

Digits are collected one by one.  The number they make never shrinks on the way, so if there
is room for all of them there is room for each.
-/

def Collected.after (c : Collected) (digits : List Char) : Collected where
  units := Nat.ofDigitChars 10 digits c.units
  scale := if c.pastPoint then c.scale + digits.length else c.scale
  pastPoint := c.pastPoint
  anyDigit := c.anyDigit || !digits.isEmpty

private theorem le_ofDigitChars (s : List Char) (start : Nat) :
    start <= Nat.ofDigitChars 10 s start := by
  rw [Nat.ofDigitChars_eq_ofDigitChars_zero]
  exact Nat.le_add_right_of_le (Nat.le_mul_of_pos_left start (by positivity))

private theorem beq_mark_of_isDigit {digit mark : Char} (h : digit.isDigit = true)
    (hmark : mark.isDigit = false) : (digit == mark) = false := by
  rw [beq_eq_false_iff_ne]
  intro heq
  rw [heq, hmark] at h
  cases h

private theorem collect_digit {digit : Char} (h : digit.isDigit = true) {c : Collected}
    (hroom : 10 * c.units + (digit.toNat - '0'.toNat) < limit)
    (hplaces : c.pastPoint = true -> c.scale < maxScale) (rest : List Char) :
    collect c (digit :: rest) = collect (c.after [digit]) rest := by
  have hpoint : (digit == '.') = false := beq_mark_of_isDigit h rfl
  have hunderscore : (digit == '_') = false := beq_mark_of_isDigit h rfl
  have hvalue : digit? digit = some (digit.toNat - '0'.toNat) := if_pos h
  have hopen : (c.pastPoint && decide (maxScale <= c.scale)) = false := by
    cases hpast : c.pastPoint with
    | false => rfl
    | true => simpa using hplaces hpast
  rw [collect, hopen, hpoint, hunderscore, hvalue]
  simp only [Bool.false_and, Bool.false_eq_true, if_false]
  rw [if_neg (Nat.not_le_of_lt hroom)]
  simp [Collected.after, Nat.ofDigitChars_cons]

private theorem collect_digits {s : List Char} (h : Digits s) {c : Collected}
    (hroom : Nat.ofDigitChars 10 s c.units < limit)
    (hplaces : c.pastPoint = true -> c.scale + s.length <= maxScale) (rest : List Char) :
    collect c (s ++ rest) = collect (c.after s) rest := by
  induction s generalizing c with
  | nil =>
      simp [Collected.after]
  | cons digit s ih =>
      rw [Nat.ofDigitChars_cons] at hroom
      have hfirst := Nat.lt_of_le_of_lt (le_ofDigitChars s _) hroom
      have hstep : collect c (digit :: (s ++ rest)) = collect (c.after [digit]) (s ++ rest) := by
        apply collect_digit (h digit List.mem_cons_self) hfirst
        intro hpast
        have hlength := hplaces hpast
        rw [List.length_cons] at hlength
        omega
      have hafter : (c.after [digit]).after s = c.after (digit :: s) := by
        cases hpast : c.pastPoint with
        | false => simp [Collected.after, hpast, Nat.ofDigitChars_cons]
        | true =>
            simp [Collected.after, hpast, Nat.ofDigitChars_cons]
            omega
      rw [List.cons_append, hstep, ← hafter]
      apply ih (fun d hd => h d (List.mem_cons_of_mem digit hd))
      · exact hroom
      · intro hpast
        have hlength := hplaces hpast
        rw [List.length_cons] at hlength
        simp only [Collected.after, List.length_singleton] at hpast ⊢
        rw [if_pos hpast]
        omega

theorem collect_plain {s : List Char} {n scale : Nat} (h : PlainDigits s n scale)
    (hroom : n < limit) (hplaces : scale <= maxScale) : collect {} s = some (n, scale) := by
  cases h with
  | whole h hne =>
      have hread := collect_digits h (c := {}) hroom (by simp) []
      rw [List.append_nil] at hread
      rw [hread]
      simp [collect, Collected.after, hne]
  | @point whole fraction hwhole hfraction hne =>
      rw [Nat.ofDigitChars_append] at hroom ⊢
      have hfront := Nat.lt_of_le_of_lt (le_ofDigitChars fraction _) hroom
      have hpoint (c : Collected) (hc : c.pastPoint = false) (rest : List Char) :
          collect c ('.' :: rest) = collect { c with pastPoint := true } rest := by
        rw [collect, hc]
        rfl
      rw [collect_digits hwhole hfront (by simp), hpoint _ rfl]
      have hread := collect_digits hfraction
        (c := { Collected.after {} whole with pastPoint := true }) hroom
        (fun _ => by simpa [Collected.after] using hplaces) []
      rw [List.append_nil] at hread
      rw [hread]
      have hany : whole = [] -> fraction ≠ [] := by
        intro hwhole hfraction
        rw [hwhole, hfraction] at hne
        exact hne rfl
      simpa [collect, Collected.after] using hany

/-!
## Reading
-/

private theorem PlainDigits.mem {s : List Char} {n scale : Nat} (h : PlainDigits s n scale)
    {c : Char} (hc : c ∈ s) : c.isDigit = true ∨ c = '.' := by
  cases h with
  | whole h hne =>
      exact Or.inl (h c hc)
  | point hwhole hfraction hne =>
      rcases List.mem_append.mp hc with hc | hc
      · exact Or.inl (hwhole c hc)
      rcases List.mem_cons.mp hc with hc | hc
      · exact Or.inr hc
      · exact Or.inl (hfraction c hc)

private theorem PlainText.ne_nil {s : List Char} {units : Int} {scale : Nat}
    (h : PlainText s units scale) : s ≠ [] := by
  cases h with
  | unsigned h =>
      cases h with
      | whole h hne => exact hne
      | point => simp
  | plus | minus =>
      exact List.cons_ne_nil _ _

private theorem PlainText.mem {s : List Char} {units : Int} {scale : Nat}
    (h : PlainText s units scale) {c : Char} (hc : c ∈ s) :
    c.isDigit = true ∨ c = '.' ∨ c = '+' ∨ c = '-' := by
  cases h with
  | unsigned h =>
      exact (h.mem hc).imp id Or.inl
  | plus h =>
      rcases List.mem_cons.mp hc with hsign | hc
      · exact Or.inr (Or.inr (Or.inl hsign))
      · exact (h.mem hc).imp id Or.inl
  | minus h =>
      rcases List.mem_cons.mp hc with hsign | hc
      · exact Or.inr (Or.inr (Or.inr hsign))
      · exact (h.mem hc).imp id Or.inl

private theorem readPlain_unsigned {s : List Char} (hminus : '-' ∉ s) (hplus : '+' ∉ s) :
    readPlain? s = (collect {} s).bind fun read => of? read.1 read.2 := by
  unfold readPlain?
  split
  rename_i negative digits hsign
  split at hsign
  · exact absurd List.mem_cons_self hminus
  · exact absurd List.mem_cons_self hplus
  · cases hsign
    rfl

private theorem readPlain_plain {s : List Char} {units : Int} {scale : Nat}
    (h : PlainText s units scale)
    (hunits : units.natAbs < limit) (hscale : scale <= maxScale) :
    readPlain? s = some ⟨units, scale, hunits, hscale⟩ := by
  have hfits : of? units scale = some ⟨units, scale, hunits, hscale⟩ :=
    dif_pos ⟨hunits, hscale⟩
  rw [← hfits]
  cases h with
  | @unsigned s n scale h =>
      have hminus : '-' ∉ s := fun hmem => by rcases h.mem hmem with h | h <;> cases h
      have hplus : '+' ∉ s := fun hmem => by rcases h.mem hmem with h | h <;> cases h
      rw [readPlain_unsigned hminus hplus, collect_plain h (by omega) hscale]
      rfl
  | plus h =>
      rw [readPlain?, collect_plain h (by omega) hscale]
      rfl
  | minus h =>
      rw [readPlain?, collect_plain h (by omega) hscale]
      rfl

private theorem PlainText.cutExponent_eq_none {s : List Char} {units : Int} {scale : Nat}
    (h : PlainText s units scale) : cutExponent? s = none := by
  have hall : s.takeWhile (fun c => c != 'e' && c != 'E') = s := by
    rw [List.takeWhile_eq_self_iff]
    intro c hc
    rcases h.mem hc with hdigit | rfl | rfl | rfl
    · have hlower : (c == 'e') = false := beq_mark_of_isDigit hdigit rfl
      have hupper : (c == 'E') = false := beq_mark_of_isDigit hdigit rfl
      simp [bne, hlower, hupper]
    all_goals rfl
  rw [cutExponent?, hall]
  simp

/-- Plain digits are read as the number they make, as long as there is room for it. -/
theorem read_plain {s : List Char} {units : Int} {scale : Nat} (h : PlainText s units scale)
    (hunits : units.natAbs < limit) (hscale : scale <= maxScale) :
    read? s = some ⟨units, scale, hunits, hscale⟩ := by
  rw [read?, h.cutExponent_eq_none]
  exact readPlain_plain h hunits hscale

example : (read? "-12.50".toList).map quantity = some ⟨-1250, 2⟩ := by decide

/-!
## Written amounts
-/

private theorem plainDigits_magnitude (d : Decimal) :
    PlainDigits (Sql.Reader.magnitudeText d).toList d.units.natAbs d.scale := by
  unfold Sql.Reader.magnitudeText
  split
  case isTrue hscale =>
    rw [beq_iff_eq.mp hscale]
    have hwhole := PlainDigits.whole (digits_nat d.units.natAbs) (toString_ne_nil _)
    rwa [ofDigitChars_toString] at hwhole
  case isFalse hscale =>
    have hpos : 0 < d.scale := Nat.pos_of_ne_zero (by simpa using hscale)
    have hfraction : d.units.natAbs % tenTo d.scale < tenTo d.scale :=
      Nat.mod_lt _ (tenTo_pos _)
    have hlength := length_padded hpos hfraction
    have hpoint := PlainDigits.point (digits_nat (d.units.natAbs / tenTo d.scale))
      (digits_padded d.scale (d.units.natAbs % tenTo d.scale))
      (List.append_ne_nil_of_left_ne_nil (toString_ne_nil _) _)
    have hvalue : Nat.ofDigitChars 10 ((toString (d.units.natAbs / tenTo d.scale)).toList ++
        (padded d.scale (d.units.natAbs % tenTo d.scale)).toList) 0 = d.units.natAbs := by
      rw [Nat.ofDigitChars_append, ofDigitChars_toString, Nat.ofDigitChars_eq_ofDigitChars_zero,
        hlength, ofDigitChars_padded]
      exact Nat.div_add_mod _ _
    rw [hvalue, hlength] at hpoint
    simpa [String.toList_append] using hpoint

private theorem plainText_text (d : Decimal) : PlainText d.text.toList d.units d.scale := by
  have hmagnitude := plainDigits_magnitude d
  rw [Sql.Reader.text_eq_magnitude]
  by_cases hsign : d.units < 0
  · have hminus := PlainText.minus hmagnitude
    have hunits : -(d.units.natAbs : Int) = d.units := by omega
    rw [hunits] at hminus
    simpa [hsign] using hminus
  · have hplain := PlainText.unsigned hmagnitude
    have hunits : (d.units.natAbs : Int) = d.units := by omega
    rw [hunits] at hplain
    simpa [hsign] using hplain

theorem read_text (d : Decimal) : read? d.text.toList = some d :=
  read_plain (plainText_text d) d.units_lt d.scale_le

end Decimal

/-!
## Entries
-/

/-- An entry in plain digits is the amount that they make, whatever blanks stand around it. -/
theorem Entry.amount_plain {before s after : List Char} {units : Int} {scale : Nat}
    (h : Decimal.PlainText s units scale) (hunits : units.natAbs < Decimal.limit)
    (hscale : scale <= Decimal.maxScale) (hbefore : before.all isBlank = true)
    (hafter : after.all isBlank = true) (filter : String) :
    amount filter (String.ofList (before ++ s ++ after)) =
      .ok ⟨units, scale, hunits, hscale⟩ := by
  have hbare {c : Char} (hc : c ∈ s) : isBlank c = false := by
    rcases h.mem hc with hdigit | rfl | rfl | rfl
    · exact isBlank_of_isDigit hdigit
    all_goals rfl
  have hne : s ≠ [] := h.ne_nil
  have htrim : trim (before ++ s ++ after) = s :=
    trim_around hbefore hafter ⟨_, List.head?_eq_some_head hne, hbare (List.head_mem hne)⟩
      ⟨_, List.getLast?_eq_some_getLast hne, hbare (List.getLast_mem hne)⟩
  rw [amount_eq_ok, String.toList_ofList, htrim]
  exact Decimal.read_plain h hunits hscale

end Audience
