import Mathlib.Data.Set.Card
import Audience.Contact

/-!
# The numbers of a list in ascending order

Each number of a list is kept once, so their count is the count of the different numbers.
-/

namespace Audience
namespace Number

@[simp] theorem mem_insertAscending (n m : Int) (ns : List Int) :
    m ∈ insertAscending n ns <-> m = n ∨ m ∈ ns := by
  induction ns with
  | nil =>
      simp [insertAscending]
  | cons k ns ih =>
      rw [insertAscending]
      split
      · simp
      · split
        case isTrue h =>
          simp [beq_iff_eq.mp h]
        case isFalse h =>
          simp [ih, or_left_comm]

private theorem pairwise_insertAscending (n : Int) {ns : List Int} (h : ns.Pairwise (· < ·)) :
    (insertAscending n ns).Pairwise (· < ·) := by
  induction ns with
  | nil =>
      exact List.pairwise_singleton _ n
  | cons k ns ih =>
      rcases List.pairwise_cons.mp h with ⟨hfirst, hrest⟩
      rw [insertAscending]
      split
      case isTrue hless =>
        refine List.pairwise_cons.mpr ⟨?_, h⟩
        intro m hm
        rcases List.mem_cons.mp hm with rfl | hm
        · exact hless
        · exact hless.trans (hfirst m hm)
      case isFalse hnotLess =>
        split
        case isTrue =>
          exact h
        case isFalse hother =>
          have hmore : k < n := by
            rw [beq_iff_eq] at hother
            omega
          refine List.pairwise_cons.mpr ⟨?_, ih hrest⟩
          intro m hm
          rcases (mem_insertAscending n m ns).mp hm with rfl | hm
          · exact hmore
          · exact hfirst m hm

@[simp] theorem mem_ascending (m : Int) (ns : List Int) : m ∈ ascending ns <-> m ∈ ns := by
  induction ns with
  | nil =>
      exact Iff.rfl
  | cons n ns ih =>
      have hcons : ascending (n :: ns) = insertAscending n (ascending ns) := rfl
      rw [hcons, mem_insertAscending, ih, List.mem_cons]

theorem pairwise_ascending (ns : List Int) : (ascending ns).Pairwise (· < ·) := by
  induction ns with
  | nil =>
      exact List.Pairwise.nil
  | cons n ns ih =>
      exact pairwise_insertAscending n ih

theorem nodup_ascending (ns : List Int) : (ascending ns).Nodup :=
  (pairwise_ascending ns).imp fun hless => hless.ne

theorem length_ascending {ns : List Int} (h : ns.Nodup) : (ascending ns).length = ns.length :=
  ((List.perm_ext_iff_of_nodup (nodup_ascending ns) h).mpr fun m => mem_ascending m ns).length_eq

theorem ncard_eq_length_ascending (ns : List Int) :
    {n : Int | n ∈ ns}.ncard = (ascending ns).length := by
  have hset : {n : Int | n ∈ ns} = ((ascending ns).toFinset : Set Int) := by
    ext n
    rw [Set.mem_ofPred_eq, List.coe_toFinset, Set.mem_ofPred_eq, mem_ascending]
  rw [hset, Set.ncard_coe_finset, List.toFinset_card_of_nodup (nodup_ascending ns)]

end Number
end Audience
