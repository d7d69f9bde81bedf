import Audience.Statement.Piece
import Audience.Text.Case

/-!
# Control characters and lower case

A text without control characters has none in lower case either.  The runs of the case
data are what this depends on: no run leads to a control character or to a number that is
no character.
-/

namespace Audience
namespace Statement

theorem toNat_ofNat_of_valid {n : Nat} (h : n.isValidChar) : (Char.ofNat n).toNat = n := by
  rw [Char.ofNat, dif_pos h]
  rfl

theorem isControl_ofNat {n : Nat} (hvalid : n.isValidChar) (h : 0x20 <= n ∧ n ≠ 0x7F) :
    isControl (Char.ofNat n) = false := by
  have hn : (Char.ofNat n).toNat = n := toNat_ofNat_of_valid hvalid
  simp [isControl, hn]
  omega

def IsPrintableRun (run : Text.CaseRun) : Prop :=
  (0x7F < run.first + run.shift ∨
      (0x20 <= run.first + run.shift ∧ run.last + run.shift < 0x7F)) ∧
    (run.last + run.shift < 0xD800 ∨
      (0xDFFF < run.first + run.shift ∧ run.last + run.shift < 0x110000))

instance (run : Text.CaseRun) : Decidable (IsPrintableRun run) := by
  unfold IsPrintableRun
  infer_instance

private theorem lowerRuns_printable : forall run, run ∈ Text.lowerRuns -> IsPrintableRun run := by
  decide +kernel

private theorem isControl_mappedBy {c : Char} (h : isControl c = false) :
    isControl (Text.mappedBy Text.lowerRuns c) = false := by
  unfold Text.mappedBy
  cases hfind : Text.lowerRuns.find? fun run => run.covers c.toNat with
  | none =>
      exact h
  | some run =>
      have hrun := lowerRuns_printable run (List.mem_of_find?_eq_some hfind)
      have hcovers := List.find?_some hfind
      simp only [Text.CaseRun.covers, Bool.and_eq_true, decide_eq_true_eq] at hcovers
      apply isControl_ofNat
      · unfold Nat.isValidChar
        unfold IsPrintableRun at hrun
        omega
      · unfold IsPrintableRun at hrun
        omega

private theorem isControl_toLower {c : Char} (h : isControl c = false) :
    isControl c.toLower = false := by
  unfold Char.toLower
  split
  case isTrue hupper =>
    have hlow : 65 <= c.val.toNat := UInt32.le_iff_toNat_le.mp hupper.1
    have hhigh : c.val.toNat <= 90 := UInt32.le_iff_toNat_le.mp hupper.2
    have hdistance : ('a'.val - 'A'.val).toNat = 32 := rfl
    have hadd : (c.val + ('a'.val - 'A'.val)).toNat = c.val.toNat + 32 := by
      rw [UInt32.toNat_add, hdistance]
      exact Nat.mod_eq_of_lt (by omega)
    simp only [isControl, ← Char.toNat_val, hadd, Bool.or_eq_false_iff, decide_eq_false_iff_not,
      beq_eq_false_iff_ne]
    omega
  case isFalse =>
    exact h

private theorem isControl_lowerChar {c : Char} (h : isControl c = false) :
    isControl (Text.lowerChar c) = false := by
  unfold Text.lowerChar
  split
  · exact isControl_toLower h
  · exact isControl_mappedBy h

private theorem isControl_lowerAfter {before s : List Char}
    (h : forall c, c ∈ s -> isControl c = false) :
    forall c, c ∈ Text.lowerAfter before s -> isControl c = false := by
  induction s generalizing before with
  | nil =>
      intro c hc
      cases hc
  | cons d s ih =>
      have hrest := @ih (d :: before) fun c hc => h c (List.mem_cons_of_mem d hc)
      intro c hc
      rcases List.mem_append.mp hc with hc | hc
      · split at hc
        · split at hc <;> simp_all [isControl]
        · split at hc
          · rcases List.mem_cons.mp hc with rfl | hc
            · rfl
            · simp_all [isControl]
          · rw [List.mem_singleton.mp hc]
            exact isControl_lowerChar (h d List.mem_cons_self)
      · exact hrest c hc

theorem isControl_lowered {s : String} (h : forall c, c ∈ s.toList -> isControl c = false) :
    forall c, c ∈ (Text.lowered s).toList -> isControl c = false := by
  rw [Text.lowered, String.toList_ofList]
  exact isControl_lowerAfter h

end Statement
end Audience
