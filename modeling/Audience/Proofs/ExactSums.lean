import Audience.Proofs.WrittenValues

/-!
# Sums of amounts

A sum of amounts is rounded only where its units, counted with all the decimals, are too many.
As long as there is room for the units of all amounts together, nothing is rounded, whatever
the order and the signs of the amounts.
-/

namespace Audience

open Number

def ExactSum (amounts : List Decimal) : Prop :=
  exists total, Decimal.sum? amounts = some total ∧
    total.quantity.value = (amounts.map fun d => d.quantity.value).sum

namespace Decimal

theorem value_eq_unitsAt {d : Decimal} {scale : Nat} (h : d.scale <= scale) :
    d.quantity.value = d.unitsAt scale / 10 ^ scale := by
  have hpow : ((10 : ℚ) ^ scale) = 10 ^ d.scale * 10 ^ (scale - d.scale) := by
    rw [← pow_add, Nat.add_sub_cancel' h]
  have hunits : (d.unitsAt scale : ℚ) = d.units * 10 ^ (scale - d.scale) := by
    rw [unitsAt, tenTo, Nat.pow_eq]
    push_cast
    rfl
  rw [hunits, hpow, quantity, Quantity.value, mul_div_mul_right _ _ (by positivity)]

theorem unitsAt_of_le (d : Decimal) {middle scale : Nat} (hlow : d.scale <= middle)
    (hhigh : middle <= scale) :
    d.unitsAt scale = d.unitsAt middle * tenTo (scale - middle) := by
  have hsplit : scale - d.scale = (middle - d.scale) + (scale - middle) := by omega
  rw [unitsAt, unitsAt, hsplit, tenTo, tenTo, tenTo, Nat.pow_eq, Nat.pow_eq, Nat.pow_eq, pow_add,
    Nat.cast_mul, mul_assoc]

theorem natAbs_unitsAt_le (d : Decimal) {middle scale : Nat} (hlow : d.scale <= middle)
    (hhigh : middle <= scale) :
    (d.unitsAt middle).natAbs <= (d.unitsAt scale).natAbs := by
  rw [unitsAt_of_le d hlow hhigh, Int.natAbs_mul, Int.natAbs_natCast]
  exact Nat.le_mul_of_pos_right _ (tenTo_pos _)

theorem unitsRounded_zero (units : Int) : unitsRounded units 0 = units := by
  have hmagnitude : roundHalfEven units.natAbs (tenTo 0) = units.natAbs := by
    simp [roundHalfEven, tenTo, Nat.mod_one]
  unfold unitsRounded
  dsimp only
  rw [hmagnitude]
  split <;> omega

theorem fit_of_lt {units : Int} {scale : Nat} (hunits : units.natAbs < limit)
    (hscale : scale <= maxScale) : fit? units scale = some ⟨units, scale, hunits, hscale⟩ := by
  have hfirst : of? (unitsRounded units 0) (scale - 0) =
      some ⟨units, scale, hunits, hscale⟩ := by
    rw [unitsRounded_zero]
    exact dif_pos ⟨hunits, hscale⟩
  rw [fit?, List.range_succ_eq_map, List.findSome?_cons, hfirst]

theorem unitsAt_of_zero {d : Decimal} (h : (d.units == 0) = true) (scale : Nat) :
    d.unitsAt scale = 0 := by
  rw [unitsAt, beq_iff_eq.mp h, zero_mul]

private theorem add_exact {d e : Decimal} {scale : Nat} (hd : d.scale <= scale)
    (he : e.scale <= scale)
    (hroom : (d.unitsAt scale).natAbs + (e.unitsAt scale).natAbs < limit) :
    exists f, d.add? e = some f ∧ f.scale <= scale ∧
      f.unitsAt scale = d.unitsAt scale + e.unitsAt scale := by
  unfold add?
  split
  case isTrue hzero =>
    refine ⟨e, rfl, he, ?_⟩
    rw [unitsAt_of_zero hzero, zero_add]
  case isFalse =>
    split
    case isTrue hzero =>
      refine ⟨d, rfl, hd, ?_⟩
      rw [unitsAt_of_zero hzero, add_zero]
    case isFalse =>
      have hmax : max d.scale e.scale <= scale := max_le hd he
      have hbelow := Int.natAbs_add_le (d.unitsAt (max d.scale e.scale))
        (e.unitsAt (max d.scale e.scale))
      have hdBelow := d.natAbs_unitsAt_le (le_max_left d.scale e.scale) hmax
      have heBelow := e.natAbs_unitsAt_le (le_max_right d.scale e.scale) hmax
      have hunits : (d.unitsAt (max d.scale e.scale) +
          e.unitsAt (max d.scale e.scale)).natAbs < limit := by omega
      refine ⟨_, fit_of_lt hunits (max_le d.scale_le e.scale_le), hmax, ?_⟩
      rw [d.unitsAt_of_le (le_max_left _ _) hmax, e.unitsAt_of_le (le_max_right _ _) hmax,
        ← add_mul]
      rfl

/-- The amounts have room together: counted with equally many decimals, their units are not too
many for one amount. -/
def FitTogether (ds : List Decimal) : Prop :=
  exists scale, (forall d, d ∈ ds -> d.scale <= scale) ∧
    (ds.map fun d => (d.unitsAt scale).natAbs).sum < limit

private theorem sumFrom_exact {scale : Nat} {ds : List Decimal}
    (hscales : forall d, d ∈ ds -> d.scale <= scale) {total : Decimal}
    (htotal : total.scale <= scale)
    (hroom : (total.unitsAt scale).natAbs + (ds.map fun d => (d.unitsAt scale).natAbs).sum <
      limit) :
    exists result, sumFrom? total ds = some result ∧
      result.quantity.value =
        total.quantity.value + (ds.map fun d => d.quantity.value).sum := by
  induction ds generalizing total with
  | nil =>
      exact ⟨total, rfl, (add_zero _).symm⟩
  | cons d ds ih =>
      rw [List.forall_mem_cons] at hscales
      rw [List.map_cons, List.sum_cons] at hroom
      rcases add_exact htotal hscales.left (by omega) with ⟨next, hnext, hscale, hunits⟩
      have hrest : (next.unitsAt scale).natAbs +
          (ds.map fun d => (d.unitsAt scale).natAbs).sum < limit := by
        rw [hunits]
        have hbelow := Int.natAbs_add_le (total.unitsAt scale) (d.unitsAt scale)
        omega
      rcases ih hscales.right hscale hrest with ⟨result, hresult, hvalue⟩
      refine ⟨result, by rw [sumFrom?, hnext]; exact hresult, ?_⟩
      rw [hvalue, List.map_cons, List.sum_cons, value_eq_unitsAt hscale, value_eq_unitsAt htotal,
        value_eq_unitsAt hscales.left, hunits]
      push_cast
      ring

theorem exactSum_of_fitTogether {ds : List Decimal} (h : FitTogether ds) : ExactSum ds := by
  rcases h with ⟨scale, hscales, hroom⟩
  have hnothing : zero.unitsAt scale = 0 := zero_mul _
  have hvalue : zero.quantity.value = 0 := by
    simp [zero, quantity, Quantity.value]
  rcases sumFrom_exact hscales (Nat.zero_le scale) (by rw [hnothing]; simpa using hroom) with
    ⟨total, htotal, hsum⟩
  refine ⟨total, htotal, ?_⟩
  rw [hsum, hvalue, zero_add]

end Decimal
end Audience
