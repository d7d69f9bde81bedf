import Audience.Proofs.Denotation
import Audience.Proofs.FirstOccurrences

/-!
# Plans made in steps

## Steps

A plan is changed in steps, and every plan is made of the baseline by a sequence of them.
What a plan looks like can be told from the sequence: what each kind of step asks for is
collected on its own.
-/

namespace Audience
namespace Plan

inductive Step where
  /-- Keeps the users that satisfy a predicate. -/
  | filter (p : Predicate)
  /-- Keeps nobody. -/
  | none
  | withColumns (columns : List OutputColumn)
  | distinct

namespace Step

def apply (plan : Plan) : Step -> Plan
  | filter p => plan.filter p
  | none => plan.none
  | withColumns columns => plan.withColumns columns
  | distinct => plan.distinct

def predicate? : Step -> Option Predicate
  | filter p => some p
  | _ => Option.none

def columns : Step -> List OutputColumn
  | withColumns columns => columns
  | _ => []

end Step

def made (steps : List Step) : Plan :=
  steps.foldl Step.apply baseline

def filters (steps : List Step) : List Predicate :=
  steps.filterMap Step.predicate?

def requested (steps : List Step) : List OutputColumn :=
  steps.flatMap Step.columns

@[simp] theorem made_concat (steps : List Step) (step : Step) :
    made (steps ++ [step]) = step.apply (made steps) := by
  unfold made
  rw [List.foldl_append]
  rfl

@[simp] theorem filters_concat (steps : List Step) (step : Step) :
    filters (steps ++ [step]) = filters steps ++ step.predicate?.toList := by
  unfold filters
  rw [List.filterMap_append]
  cases step <;> rfl

@[simp] theorem requested_concat (steps : List Step) (step : Step) :
    requested (steps ++ [step]) = requested steps ++ step.columns := by
  unfold requested
  rw [List.flatMap_append, List.flatMap_singleton]

theorem requested_concat_of_nil {steps : List Step} {step : Step} (h : step.columns = []) :
    requested (steps ++ [step]) = requested steps := by
  rw [requested_concat, h, List.append_nil]

theorem mem_filters {steps : List Step} {p : Predicate} :
    p ∈ filters steps <-> Step.filter p ∈ steps := by
  unfold filters
  rw [List.mem_filterMap]
  constructor
  · intro h
    rcases h with ⟨step, hstep, hpredicate⟩
    cases step with
    | filter q =>
        cases hpredicate
        exact hstep
    | _ =>
        cases hpredicate
  · intro h
    exact ⟨Step.filter p, h, rfl⟩

/-!
## Columns
-/

/-- The columns begin with the id, and each other one is shown once, in the order in which
they were requested first. -/
structure ShowsInTurn (columns requested : List OutputColumn) : Prop where
  starts : columns.head? = some .id
  shown : forall column, column ∈ columns <-> column = .id ∨ column ∈ requested
  once : columns.Nodup
  inTurn :
    columns.Pairwise fun column later =>
      (.id :: requested).idxOf column < (.id :: requested).idxOf later

theorem showsInTurn_eraseDups (requested : List OutputColumn) :
    ShowsInTurn (.id :: requested).eraseDups requested where
  starts := by rw [List.eraseDups_cons, List.head?_cons]
  shown column := by rw [List.mem_eraseDups, List.mem_cons]
  once := nodup_eraseDups _
  inTurn := pairwise_eraseDups _

private theorem withColumn_columns {plan : Plan} {seen : List OutputColumn}
    (h : plan.columns = seen.eraseDups) (column : OutputColumn) :
    (plan.withColumn column).columns = (seen ++ [column]).eraseDups := by
  unfold withColumn
  by_cases hseen : column ∈ seen
  · have hshown : plan.columns.contains column = true := by
      rw [h, List.contains_iff_mem, List.mem_eraseDups]
      exact hseen
    rw [if_pos hshown, eraseDups_concat_of_mem hseen, h]
  · have hnew : ¬ plan.columns.contains column = true := by
      rw [h, List.contains_iff_mem, List.mem_eraseDups]
      exact hseen
    rw [if_neg hnew, eraseDups_concat_of_notMem hseen, ← h]

theorem withColumns_columns {plan : Plan} {seen : List OutputColumn}
    (h : plan.columns = seen.eraseDups) (columns : List OutputColumn) :
    (plan.withColumns columns).columns = (seen ++ columns).eraseDups := by
  induction columns generalizing plan seen with
  | nil =>
      rw [List.append_nil]
      exact h
  | cons column columns ih =>
      have hrest := ih (withColumn_columns h column)
      rw [List.append_assoc] at hrest
      exact hrest

private theorem withColumn_isDistinct (plan : Plan) (column : OutputColumn) :
    (plan.withColumn column).isDistinct = plan.isDistinct := by
  unfold withColumn
  split <;> rfl

@[simp] theorem withColumns_isDistinct (plan : Plan) (columns : List OutputColumn) :
    (plan.withColumns columns).isDistinct = plan.isDistinct := by
  induction columns generalizing plan with
  | nil =>
      rfl
  | cons column columns ih =>
      exact (ih (plan.withColumn column)).trans (withColumn_isDistinct plan column)

/-!
## What a sequence of steps leaves

Nobody, once selected, is all that any later filter leaves.  Otherwise the filters of the
steps are decided one after another.
-/

/-- What can be told of a plan from the steps that have made it. -/
structure Reflects (steps : List Step) (plan : Plan) : Prop where
  columns : plan.columns = (.id :: requested steps).eraseDups
  distinct : plan.isDistinct = true <-> Step.distinct ∈ steps
  emptied : Step.none ∈ steps -> forall user, plan.selection.holds user = .ok false
  narrowed : Step.none ∉ steps -> plan.selection = (filters steps).foldl .and .everyone

theorem reflects_baseline : Reflects [] baseline where
  columns := by simp [baseline, requested, List.eraseDups_cons]
  distinct := by simp [baseline]
  emptied h := (List.not_mem_nil h).elim
  narrowed _ := rfl

private theorem mem_concat_of_ne {steps : List Step} {step other : Step} (h : other ≠ step) :
    other ∈ steps ++ [step] <-> other ∈ steps := by
  rw [List.mem_append, List.mem_singleton, or_iff_left h]

theorem Reflects.step {steps : List Step} {plan : Plan} (h : Reflects steps plan)
    (step : Step) : Reflects (steps ++ [step]) (step.apply plan) := by
  cases step with
  | filter p =>
      have hnone : Step.none ∈ steps ++ [Step.filter p] <-> Step.none ∈ steps :=
        mem_concat_of_ne (by nofun)
      constructor
      · rw [requested_concat_of_nil rfl]
        exact h.columns
      · exact h.distinct.trans (mem_concat_of_ne (by nofun)).symm
      · intro hmem user
        show (plan.selection.and p).holds user = .ok false
        rw [Predicate.holds_and, h.emptied (hnone.mp hmem) user]
        rfl
      · intro hmem
        show plan.selection.and p = _
        rw [h.narrowed (mt hnone.mpr hmem), filters_concat, List.foldl_append]
        rfl
  | none =>
      constructor
      · rw [requested_concat_of_nil rfl]
        exact h.columns
      · exact h.distinct.trans (mem_concat_of_ne (by nofun)).symm
      · intro _ user
        rfl
      · intro hmem
        exact absurd (List.mem_append_right steps List.mem_cons_self) hmem
  | withColumns columns =>
      have hselection : (plan.withColumns columns).selection = plan.selection :=
        Compiler.withColumns_selection plan columns
      have hnone : Step.none ∈ steps ++ [Step.withColumns columns] <-> Step.none ∈ steps :=
        mem_concat_of_ne (by nofun)
      constructor
      · rw [requested_concat]
        exact withColumns_columns h.columns columns
      · rw [Step.apply, withColumns_isDistinct]
        exact h.distinct.trans (mem_concat_of_ne (by nofun)).symm
      · intro hmem user
        rw [Step.apply, hselection]
        exact h.emptied (hnone.mp hmem) user
      · intro hmem
        rw [Step.apply, hselection, h.narrowed (mt hnone.mpr hmem), filters_concat]
        simp [Step.predicate?]
  | distinct =>
      have hnone : Step.none ∈ steps ++ [Step.distinct] <-> Step.none ∈ steps :=
        mem_concat_of_ne (by nofun)
      constructor
      · rw [requested_concat_of_nil rfl]
        exact h.columns
      · exact iff_of_true rfl (List.mem_append_right steps List.mem_cons_self)
      · intro hmem user
        exact h.emptied (hnone.mp hmem) user
      · intro hmem
        show plan.selection = _
        rw [h.narrowed (mt hnone.mpr hmem), filters_concat]
        simp [Step.predicate?]

theorem reflects_made (steps : List Step) : Reflects steps (made steps) := by
  induction steps using List.reverseRecOn with
  | nil =>
      exact reflects_baseline
  | append_singleton steps step ih =>
      rw [made_concat]
      exact ih.step step

theorem isBaseline_iff (plan : Plan) : plan.isBaseline = true <-> plan = baseline := by
  rcases plan with ⟨selection, columns, isDistinct⟩
  unfold isBaseline baseline
  rw [Bool.and_eq_true, Bool.and_eq_true, Predicate.isUnfiltered_eq_true]
  simp [and_assoc]

namespace Reflects

variable {steps : List Step} {plan : Plan}

theorem columns_eq_id (h : Reflects steps plan) :
    plan.columns = [.id] <-> forall column, column ∈ requested steps -> column = .id := by
  rw [h.columns, List.eraseDups_cons, List.cons_eq_cons, and_iff_right rfl,
    List.eq_nil_iff_forall_not_mem]
  apply forall_congr'
  intro column
  rw [List.mem_eraseDups, List.mem_filter]
  simp

theorem holds_eq (h : Reflects steps plan) (hnone : Step.none ∉ steps) (user : User) :
    plan.selection.holds user = Predicate.allHold user (filters steps) := by
  rw [h.narrowed hnone, Predicate.foldl_and_holds]
  rfl

private theorem selection_eq_everyone (h : Reflects steps plan) :
    plan.selection = .everyone <->
      Step.none ∉ steps ∧ forall p, Step.filter p ∈ steps -> p = .everyone := by
  simp only [← mem_filters]
  by_cases hnone : Step.none ∈ steps
  · have hempty := h.emptied hnone (.unknown 0 "")
    constructor
    · intro hselection
      rw [hselection] at hempty
      cases hempty
    · intro hother
      exact absurd hnone hother.left
  · rw [and_iff_right hnone, h.narrowed hnone]
    exact Predicate.foldl_and_eq_everyone (filters steps)

private theorem eq_baseline (h : Reflects steps plan) :
    plan = baseline <->
      Step.none ∉ steps ∧ Step.distinct ∉ steps ∧
        (forall p, Step.filter p ∈ steps -> p = .everyone) ∧
        forall column, column ∈ requested steps -> column = .id := by
  rw [← h.columns_eq_id, ← h.distinct, Bool.not_eq_true]
  have hselection := h.selection_eq_everyone
  rcases plan with ⟨selection, columns, isDistinct⟩
  unfold baseline
  rw [Plan.mk.injEq, hselection]
  tauto

end Reflects

/--
Whatever sequence of steps has made a plan of the baseline: its columns begin with the id and
show each other requested column once, in the order of the first requests; it shows equal
rows once exactly if a step has asked for it.  Once a step has emptied it, it selects nobody
and deciding it never goes wrong; otherwise its filters are decided in their order, and the
users that satisfy them all are selected.  Filters leave the columns alone and columns the
selection.  The plan is the baseline only if no step has changed anything, which is what the
guard against requests that narrow nothing looks at.
-/
theorem steps_leave_plan_wellFormed (steps : List Step) :
    ShowsInTurn (made steps).columns (requested steps) ∧
    ((made steps).isDistinct = true <-> Step.distinct ∈ steps) ∧
    (Step.none ∈ steps -> forall user, (made steps).selection.holds user = .ok false) ∧
    (Step.none ∉ steps -> forall user,
      (made steps).selection.holds user = Predicate.allHold user (filters steps) ∧
        ((made steps).selection.holds user = .ok true <->
          forall p, Step.filter p ∈ steps -> p.holds user = .ok true)) ∧
    (forall plan : Plan,
      (forall p, (plan.filter p).columns = plan.columns) ∧
        plan.distinct.columns = plan.columns ∧
        forall columns, (plan.withColumns columns).selection = plan.selection) ∧
    (made steps = baseline <->
      Step.none ∉ steps ∧ Step.distinct ∉ steps ∧
        (forall p, Step.filter p ∈ steps -> p = .everyone) ∧
        forall column, column ∈ requested steps -> column = .id) ∧
    ((made steps).isBaseline = true <-> made steps = baseline) := by
  have hmade := reflects_made steps
  refine ⟨?_, hmade.distinct, hmade.emptied, ?_, ?_, hmade.eq_baseline, isBaseline_iff _⟩
  · rw [hmade.columns]
    exact showsInTurn_eraseDups (requested steps)
  · intro hnone user
    have hholds := hmade.holds_eq hnone user
    refine ⟨hholds, ?_⟩
    rw [hholds, Predicate.allHold_eq_true]
    simp only [mem_filters]
  · intro plan
    exact ⟨fun _ => rfl, rfl, Compiler.withColumns_selection plan⟩

/-- The id stays in front, and the phone number where it was requested first. -/
example :
    (made [.withColumns [.phone, .id], .none, .withColumns [.fullName, .phone]]).columns =
      [.id, .phone, .fullName] := by
  rfl

end Plan
end Audience
