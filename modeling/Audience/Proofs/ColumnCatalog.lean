import Audience.Extension
import Audience.Form
import Audience.Proofs.Usable

/-!
# The catalog of columns

## Sorted lists

A list that ascends by a key is known from the parts of it that belong to each key.  Sorting
leaves every such part as it is, since equal keys keep their order.
-/

namespace Audience

section

variable {α : Type _} {key : α -> Int} {xs ys : List α}

theorem mem_of_parts_eq
    (h : forall k, (xs.filter fun x => key x == k) = ys.filter fun y => key y == k) {x : α}
    (hx : x ∈ xs) : x ∈ ys := by
  have hpart : x ∈ xs.filter fun other => key other == key x :=
    List.mem_filter.mpr ⟨hx, beq_self_eq_true _⟩
  rw [h] at hpart
  exact List.mem_of_mem_filter hpart

theorem eq_of_parts_eq (hxs : xs.Pairwise fun x later => key x <= key later)
    (hys : ys.Pairwise fun y later => key y <= key later)
    (h : forall k, (xs.filter fun x => key x == k) = ys.filter fun y => key y == k) :
    xs = ys := by
  induction xs generalizing ys with
  | nil =>
      cases ys with
      | nil =>
          rfl
      | cons y ys =>
          exact (List.not_mem_nil
            (mem_of_parts_eq (fun k => (h k).symm) List.mem_cons_self)).elim
  | cons x xs ih =>
      cases ys with
      | nil =>
          exact (List.not_mem_nil (mem_of_parts_eq h List.mem_cons_self)).elim
      | cons y ys =>
          rw [List.pairwise_cons] at hxs hys
          have hle : key y <= key x := by
            rcases List.mem_cons.mp (mem_of_parts_eq h List.mem_cons_self) with rfl | hx
            · exact Int.le_refl _
            · exact hys.left x hx
          have hge : key x <= key y := by
            have hback := fun k => (h k).symm
            rcases List.mem_cons.mp (mem_of_parts_eq hback List.mem_cons_self) with rfl | hy
            · exact Int.le_refl _
            · exact hxs.left y hy
          have hkey : key x = key y := Int.le_antisymm hge hle
          have hfirst := h (key x)
          rw [List.filter_cons_of_pos (by simp), List.filter_cons_of_pos (by simp [hkey])]
            at hfirst
          have hrest : forall k,
              (xs.filter fun x => key x == k) = ys.filter fun y => key y == k := by
            intro k
            have hk := h k
            rw [List.filter_cons, List.filter_cons, hkey] at hk
            split at hk
            · exact (List.cons.inj hk).right
            · exact hk
          rw [(List.cons.inj hfirst).left, ih hxs.right hys.right hrest]

theorem pairwise_mergeSort_key (key : α -> Int) (xs : List α) :
    (xs.mergeSort fun x y => key x <= key y).Pairwise fun x later => key x <= key later := by
  have hsorted := @List.pairwise_mergeSort α (fun x y => decide (key x <= key y))
    (by simpa using fun a b c => Int.le_trans) (by simpa using fun a b => Int.le_total _ _) xs
  simpa using hsorted

theorem filter_mergeSort_key (key : α -> Int) (xs : List α) (k : Int) :
    ((xs.mergeSort fun x y => key x <= key y).filter fun x => key x == k) =
      xs.filter fun x => key x == k := by
  have htied : (xs.filter fun x => key x == k).Pairwise fun x later =>
      decide (key x <= key later) = true := by
    rw [List.pairwise_filter]
    apply List.pairwise_of_forall
    intro x later hx hlater
    rw [decide_eq_true_iff]
    exact Int.le_of_eq ((beq_iff_eq.mp hx).trans (beq_iff_eq.mp hlater).symm)
  have hsorted : (xs.filter fun x => key x == k).Sublist
      (xs.mergeSort fun x y => key x <= key y) :=
    List.sublist_mergeSort (by simpa using fun a b c => Int.le_trans)
      (by simpa using fun a b => Int.le_total _ _) htied List.filter_sublist
  have hkept := hsorted.filter fun x => key x == k
  simp only [List.filter_filter, Bool.and_self] at hkept
  have hlength := ((List.mergeSort_perm xs fun x y => key x <= key y).filter
    fun x => key x == k).length_eq
  exact (hkept.eq_of_length hlength.symm).symm

end

/-!
## The columns of a request
-/

namespace Form

/-- The form names a column: some value says so, and it is not blank. -/
def NamesColumn (form : Form) (name : String) : Prop :=
  ("column", name) ∈ form.pairs ∧ Text.blank name = false

instance (form : Form) : DecidablePred form.NamesColumn := fun _ =>
  inferInstanceAs (Decidable (_ ∧ _))

theorem mem_filledValues_column (form : Form) (name : String) :
    name ∈ form.filledValues "column" <-> form.NamesColumn name := by
  unfold filledValues values NamesColumn
  simp

end Form

/-- The rows of a catalog that a form names: each once, in the order of their ids, and those
with one id as the catalog has them. -/
structure ChosenFrom (rows : List ExtensionColumn) (form : Form)
    (chosen : List ExtensionColumn) : Prop where
  named : chosen.Perm (rows.filter fun row => form.NamesColumn row.name)
  ascending : chosen.Pairwise fun column later => column.id <= later.id
  tied :
    forall id, (chosen.filter fun column => column.id == id) =
      (rows.filter fun row => form.NamesColumn row.name).filter fun row => row.id == id

theorem ChosenFrom.unique {rows chosen other : List ExtensionColumn} {form : Form}
    (h : ChosenFrom rows form chosen) (hother : ChosenFrom rows form other) :
    other = chosen :=
  eq_of_parts_eq hother.ascending h.ascending fun id => (hother.tied id).trans (h.tied id).symm

/-- A form that names the same columns, in whatever order and however often, chooses the same
rows. -/
theorem ChosenFrom.of_same_names {rows chosen : List ExtensionColumn} {form other : Form}
    (h : ChosenFrom rows form chosen)
    (hsame : forall name, other.NamesColumn name <-> form.NamesColumn name) :
    ChosenFrom rows other chosen := by
  have hrows : (rows.filter fun row => other.NamesColumn row.name) =
      rows.filter fun row => form.NamesColumn row.name := by
    simp only [hsame]
  exact ⟨hrows ▸ h.named, h.ascending, hrows ▸ h.tied⟩

theorem load_ofColumns (rows : List ExtensionColumn) (form : Form) :
    exists chosen, ChosenFrom rows form chosen ∧
      (ColumnStore.ofColumns rows).load (form.filledValues "column") = .ok chosen := by
  have hnamed : forall row : ExtensionColumn,
      (form.filledValues "column").contains row.name = decide (form.NamesColumn row.name) := by
    intro row
    rw [Bool.eq_iff_iff, List.contains_iff_mem, decide_eq_true_iff]
    exact form.mem_filledValues_column row.name
  refine ⟨_, ?_, rfl⟩
  simp only [hnamed]
  constructor
  · exact (List.mergeSort_perm rows _).filter _
  · exact (pairwise_mergeSort_key ExtensionColumn.id rows).filter _
  · intro id
    rw [List.filter_filter, List.filter_filter]
    simp only [Bool.and_comm (_ == id)]
    rw [← List.filter_filter, ← List.filter_filter, filter_mergeSort_key ExtensionColumn.id]

end Audience
