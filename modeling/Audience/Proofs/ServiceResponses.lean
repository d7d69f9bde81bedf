import Audience.Report.ActionKit
import Mathlib.Data.List.DropRight

/-!
# Responses of the reporting service

## Locations

A location is taken apart at its slashes.  Its last part is the last that is not empty, however
many slashes stand behind it.
-/

namespace Audience
namespace Report
namespace ActionKit

def EndsIn (location part : String) : Prop :=
  part ≠ "" ∧ '/' ∉ part.toList ∧ exists before count,
    location.toList = before ++ part.toList ++ List.replicate count '/' ∧
      (before = [] ∨ before.getLast? = some '/')

theorem withoutSlashes_append {c : Char} (hc : c ≠ '/') (front : List Char) (count : Nat) :
    withoutSlashes (front ++ [c] ++ List.replicate count '/') = front ++ [c] := by
  have hslashes : forall d, d ∈ List.replicate count '/' -> (d == '/') = true := by
    intro d hd
    exact beq_iff_eq.mpr (List.eq_of_mem_replicate hd)
  rw [withoutSlashes, List.reverse_append, List.reverse_replicate,
    List.dropWhile_append_of_pos hslashes]
  exact List.rdropWhile_concat_neg _ _ _ (by simpa using hc)

theorem rtakeWhile_append {before part : List Char} (hpart : '/' ∉ part)
    (hbefore : before = [] ∨ before.getLast? = some '/') :
    (before ++ part).rtakeWhile (· != '/') = part := by
  have hother : forall c, c ∈ part.reverse -> (c != '/') = true := by
    intro c hc
    rw [bne_iff_ne]
    intro hslash
    exact hpart (hslash ▸ List.mem_reverse.mp hc)
  have hstop : before.reverse.takeWhile (· != '/') = [] := by
    rcases hbefore with rfl | hlast
    · rfl
    · rcases List.getLast?_eq_some_iff.mp hlast with ⟨front, rfl⟩
      rw [List.reverse_append]
      rfl
  rw [List.rtakeWhile, List.reverse_append, List.takeWhile_append_of_pos hother, hstop,
    List.append_nil, List.reverse_reverse]

theorem exists_slashes (s : List Char) :
    exists count, s = withoutSlashes s ++ List.replicate count '/' := by
  exists (s.rtakeWhile (· == '/')).length
  have hslashes : forall c, c ∈ s.rtakeWhile (· == '/') -> c = '/' := by
    intro c hc
    have hslash := List.mem_rtakeWhile_imp hc
    exact beq_iff_eq.mp hslash
  rw [← List.eq_replicate_of_mem hslashes]
  exact List.rdropWhile_append_rtakeWhile.symm

private theorem exists_before (s : List Char) :
    exists before, s = before ++ s.rtakeWhile (· != '/') ∧
      (before = [] ∨ before.getLast? = some '/') := by
  refine ⟨s.rdropWhile (· != '/'), List.rdropWhile_append_rtakeWhile.symm, ?_⟩
  by_cases hnil : s.rdropWhile (· != '/') = []
  · exact Or.inl hnil
  · right
    have hlast := List.rdropWhile_last_not (· != '/') s hnil
    rw [Bool.not_eq_true, bne_eq_false_iff_eq] at hlast
    rw [List.getLast?_eq_getLast_of_ne_nil hnil, hlast]

theorem lastPart?_eq (location : String) :
    lastPart? location =
      if ((withoutSlashes location.toList).rtakeWhile (· != '/')).isEmpty then none
      else some (String.ofList ((withoutSlashes location.toList).rtakeWhile (· != '/'))) :=
  rfl

theorem lastPart?_eq_some_iff (location part : String) :
    lastPart? location = some part <-> EndsIn location part := by
  rw [lastPart?_eq]
  constructor
  · intro h
    split at h
    · cases h
    · rename_i hne
      cases h
      rcases exists_slashes location.toList with ⟨count, hcount⟩
      rcases exists_before (withoutSlashes location.toList) with ⟨before, hbefore, hends⟩
      refine ⟨?_, ?_, before, count, ?_, hends⟩
      · rw [← String.toList_inj.ne, String.toList_ofList]
        exact fun hnil => hne (List.isEmpty_iff.mpr hnil)
      · rw [String.toList_ofList]
        intro hmem
        exact absurd (List.mem_rtakeWhile_imp hmem) (by decide)
      · rw [String.toList_ofList, ← hbefore, ← hcount]
  · intro h
    rcases h with ⟨hne, hslash, before, count, hlocation, hends⟩
    have hlist : part.toList ≠ [] := fun hnil => hne (String.toList_inj.mp hnil)
    have hkept : withoutSlashes location.toList = before ++ part.toList := by
      rcases List.eq_nil_or_concat' part.toList with hnil | ⟨front, last, hpart⟩
      · exact absurd hnil hlist
      · have hother : last ≠ '/' := by
          intro h
          rcases h with rfl
          exact hslash (hpart ▸ List.mem_concat_self)
        rw [hlocation, hpart, ← List.append_assoc before, withoutSlashes_append hother]
    rw [hkept, rtakeWhile_append hslash hends, if_neg (by rwa [List.isEmpty_iff]),
      String.ofList_toList]

example : lastPart? "https://act.example.org/rest/v1/queryreport/42//" = some "42" := by
  decide

example : lastPart? "///" = none := by
  decide

/-!
## Responses

The network answers with the response at the end of all redirections.
-/

structure Locates (response : Http.Response) (location : String) : Prop where
  least : 200 <= response.status
  most : response.status < 300
  header : response.location = some location
  textual : forall c, c ∈ location.toList -> c = '\t' ∨ 0x20 <= c.toNat ∧ c.toNat < 0x7F

def Names (response? : Option Http.Response) (part : String) : Prop :=
  exists response location,
    response? = some response ∧ Locates response location ∧ EndsIn location part

def NamesReport (response? : Option Http.Response) (id : Int) : Prop :=
  exists part, Names response? part ∧ Text.int64? part.toList = some id

theorem NamesReport.unique {response? : Option Http.Response} {id other : Int}
    (h : NamesReport response? id) (hother : NamesReport response? other) : id = other := by
  rcases h with ⟨part, ⟨response, location, hresponse, hlocates, hends⟩, hid⟩
  rcases hother with
    ⟨otherPart, ⟨_, otherLocation, hotherResponse, hotherLocates, hotherEnds⟩, hotherId⟩
  cases hresponse.symm.trans hotherResponse
  cases hlocates.header.symm.trans hotherLocates.header
  rw [← lastPart?_eq_some_iff] at hends hotherEnds
  cases hends.symm.trans hotherEnds
  exact Option.some_inj.mp (hid.symm.trans hotherId)

end ActionKit
end Report
end Audience
