import Mathlib
import Audience.Geo.Box

/-!
# The order of floating-point numbers

Numbers that are defined are in order, so one that is not at least another is less than it.  The
difference of two finite numbers is defined, although it may be infinite.

## Unpacked numbers
-/

namespace Audience
namespace Number

open Float.Model

theorem isNaN_unpack_pack {x : UnpackedFloat} (h : x.isNaN = false) :
    (UnpackedFloat.unpack Format.binary64 (UnpackedFloat.pack Format.binary64 x)).isNaN =
      false := by
  rw [← Bool.not_eq_true, UnpackedFloat.isNaN_unpack_iff_of_valid UnpackedFloat.valid_pack]
  intro hbits
  have hexponent := congrArg UnpackedFloat.unpackExponent hbits
  have hmantissa := congrArg UnpackedFloat.unpackMantissa hbits
  rw [UnpackedFloat.packedNaN, UnpackedFloat.unpackExponent_packComponents] at hexponent
  rw [UnpackedFloat.packedNaN, UnpackedFloat.unpackMantissa_packComponents] at hmantissa
  cases x with
  | notANumber =>
      cases h
  | infinity sign =>
      simp [UnpackedFloat.pack, UnpackedFloat.packedInfinity] at hmantissa
  | zero sign =>
      simp [UnpackedFloat.pack, UnpackedFloat.packedZero] at hexponent
  | finite sign mantissa exponent hpos =>
      rw [UnpackedFloat.pack] at hexponent hmantissa
      dsimp only at hexponent hmantissa
      split at hexponent
      case isTrue hlarge =>
        rw [if_pos hlarge] at hmantissa
        simp [UnpackedFloat.packedInfinity] at hmantissa
      case isFalse hsmall =>
        split at hexponent
        · -- An exponent that stands for a number is not the one of the infinities.
          rw [UnpackedFloat.unpackExponent_packComponents] at hexponent
          have hvalue := congrArg BitVec.toNat hexponent
          rw [BitVec.toNat_ofNat, Nat.mod_eq_of_lt (by omega)] at hvalue
          have hmost : (-1#11).toNat = 2047 := by decide
          rw [hmost] at hvalue
          omega
        · simp at hexponent

theorem compare_swap (a b : UnpackedFloat) :
    b.compare a = (a.compare b).map Ordering.swap := by
  have hints : forall m n : Int, compare n m = (compare m n).swap := fun m n =>
    Std.OrientedCmp.eq_swap
  have hnats : forall m n : Nat, compare n m = (compare m n).swap := fun m n =>
    Std.OrientedCmp.eq_swap
  rcases a with ⟨_ | _⟩ | _ | ⟨_ | _⟩ | ⟨_ | _, m, e, _⟩ <;>
    rcases b with ⟨_ | _⟩ | _ | ⟨_ | _⟩ | ⟨_ | _, n, f, _⟩ <;> try rfl
  · simp [UnpackedFloat.compare, hints e f, hnats m n, Ordering.swap_then]
  · simp [UnpackedFloat.compare, hints e f, hnats m n, Ordering.swap_then]

theorem compare_eq_none (a b : UnpackedFloat) :
    a.compare b = none <-> a.isNaN = true ∨ b.isNaN = true := by
  rcases a with ⟨_ | _⟩ | _ | ⟨_ | _⟩ | ⟨_ | _, m, e, _⟩ <;>
    rcases b with ⟨_ | _⟩ | _ | ⟨_ | _⟩ | ⟨_ | _, n, f, _⟩ <;>
    simp [UnpackedFloat.compare, UnpackedFloat.isNaN]

private theorem isNaN_normalize (spec : Format) (mantissa exponent : Int)
    (sign : UnpackedFloat.Sign) :
    (UnpackedFloat.normalize spec mantissa exponent sign).isNaN = false := by
  unfold UnpackedFloat.normalize UnpackedFloat.round UnpackedFloat.roundWithAccuracy
  dsimp only
  split
  · split <;> rfl
  · rfl
  · split <;> rfl

private theorem isNaN_unpackedSub {spec : Format} {x y : UnpackedFloat} (hx : x.isFinite = true)
    (hy : y.isFinite = true) : (UnpackedFloat.sub spec x y).isNaN = false := by
  cases x with
  | infinity | notANumber =>
      cases hx
  | zero sign =>
      cases y with
      | infinity | notANumber =>
          cases hy
      | zero =>
          rw [UnpackedFloat.sub]
          split <;> rfl
      | finite =>
          rfl
  | finite =>
      cases y with
      | infinity | notANumber =>
          cases hy
      | zero =>
          rfl
      | finite =>
          exact isNaN_normalize _ _ _ _

/-!
## Packed numbers
-/

/-- The difference of two finite numbers may be infinite, but it is defined. -/
theorem isNaN_sub {x y : Float} (hx : x.isFinite = true) (hy : y.isFinite = true) :
    (x - y).isNaN = false :=
  isNaN_unpack_pack (isNaN_unpackedSub hx hy)

private theorem le_iff_compare {x y : Float} :
    x <= y <-> (x.toModel.unpack.compare y.toModel.unpack).any (·.isLE) = true := by
  change decide (x.toModel <= y.toModel) = true <-> _
  exact decide_eq_true_iff

private theorem lt_iff_compare {x y : Float} :
    x < y <-> x.toModel.unpack.compare y.toModel.unpack = some .lt := by
  change decide (x.toModel < y.toModel) = true <-> _
  exact decide_eq_true_iff.trans beq_iff_eq

/-- Of two numbers that are defined, one is less than the other unless it is at least the
other. -/
theorem not_le_iff_lt {x y : Float} (hx : x.isNaN = false) (hy : y.isNaN = false) :
    ¬ x <= y <-> y < x := by
  have hswap := compare_swap x.toModel.unpack y.toModel.unpack
  rw [le_iff_compare, lt_iff_compare, hswap]
  cases hcompare : x.toModel.unpack.compare y.toModel.unpack with
  | none =>
      have hx : x.toModel.unpack.isNaN = false := hx
      have hy : y.toModel.unpack.isNaN = false := hy
      have hnone := (compare_eq_none _ _).mp hcompare
      rw [hx, hy] at hnone
      simp at hnone
  | some order =>
      cases order <;> simp [Ordering.isLE]

end Number
end Audience
