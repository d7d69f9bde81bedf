import Audience.Geo.GeoNames
import Audience.Geo.Google
import Audience.Proofs.Addresses
import Audience.Proofs.QueryText

/-!
# Queries of sent requests

## Fields in a query

A query carries the fields of its segments between ampersands.  What is appended to it behind
an ampersand comes behind them, whatever the query ends in.
-/

namespace Audience

namespace Form

open Text Http

def fieldsIn (query : List Char) : List (String × String) :=
  (segments query).map fieldOf

theorem segments_append (query added : List Char) :
    segments (query ++ '&' :: added) = segments query ++ segments added := by
  have hsplit : splitOn '&' (query ++ '&' :: added) = splitOn '&' query ++ splitOn '&' added :=
    splitWhere_append_sep rfl query added
  rw [segments, hsplit, List.filter_append]
  rfl

theorem fieldsIn_append (query added : List Char) :
    fieldsIn (query ++ '&' :: added) = fieldsIn query ++ fieldsIn added := by
  rw [fieldsIn, segments_append, List.map_append]
  rfl

@[simp] theorem fieldsIn_toQuery (form : Form) : fieldsIn form.toQuery.toList = form.pairs := by
  have hfields : (fieldOf ∘ segmentOf) = id := funext fieldOf_segmentOf
  rw [fieldsIn, toList_toQuery, segments_intercalate, List.map_map, hfields, List.map_id]

private theorem segments_escaped (query : List Char) :
    segments (escaped isForbiddenInQuery query) =
      (segments query).map (escaped isForbiddenInQuery) := by
  have hsplit : splitOn '&' (escaped isForbiddenInQuery query) =
      (splitOn '&' query).map (escaped isForbiddenInQuery) := by
    have hkept : forall c, (c == '&') = true -> escaped isForbiddenInQuery [c] = [c] := by
      intro c hc
      rw [beq_iff_eq.mp hc]
      rfl
    have hother : forall c, (c == '&') = false ->
        forall d, d ∈ escaped isForbiddenInQuery [c] -> (d == '&') = false := by
      intro c hc d hd
      rw [beq_eq_false_iff_ne] at hc ⊢
      intro h
      rcases h with rfl
      rcases mem_escaped hd with hwritten | ⟨hmem, _⟩
      · cases hwritten
      · exact hc (List.mem_singleton.mp hmem).symm
    rw [splitOn, escaped_eq_flatMap, splitWhere_flatMap hkept hother]
    simp only [← escaped_eq_flatMap]
    rfl
  have hempty : ((fun part : List Char => !part.isEmpty) ∘ escaped isForbiddenInQuery) =
      fun part => !part.isEmpty := by
    funext part
    rw [Function.comp_apply, isEmpty_escaped]
  rw [segments, hsplit, List.filter_map, hempty]
  rfl

private theorem fieldOf_escaped (segment : List Char) :
    fieldOf (escaped isForbiddenInQuery segment) = fieldOf segment := by
  have hother : forall c, c ≠ '=' -> '=' ∉ escaped isForbiddenInQuery [c] := by
    intro c hc hmem
    rcases mem_escaped hmem with hwritten | ⟨hmem, _⟩
    · cases hwritten
    · exact hc (List.mem_singleton.mp hmem).symm
  rw [fieldOf, escaped_eq_flatMap, cutAt?_flatMap rfl hother]
  simp only [← escaped_eq_flatMap]
  rw [fieldOf]
  rcases cutAt? ['='] segment with _ | ⟨key, value⟩
  · dsimp only [Option.map_none]
    rw [decode_escaped]
  · dsimp only [Option.map_some]
    rw [decode_escaped, decode_escaped]

theorem fieldsIn_escaped (query : List Char) :
    fieldsIn (escaped isForbiddenInQuery query) = fieldsIn query := by
  have hfields : (fieldOf ∘ escaped isForbiddenInQuery) = fieldOf := funext fieldOf_escaped
  rw [fieldsIn, segments_escaped, List.map_map, hfields]
  rfl

end Form

namespace Http

open Text Form

/-!
## Fields of targets
-/

/-- The fields in the query of a written address. -/
def fieldsOf (s : List Char) : List (String × String) :=
  fieldsIn ((queryOf? s).getD [])

namespace Target

variable {target : Target}

private theorem adding_query (target : Target) (fields : Form) :
    exists query, (target.adding fields).query = some query ∧
      fieldsIn query = fieldsIn (target.query.getD []) ++ fields.pairs := by
  unfold adding
  dsimp only
  split
  · rename_i hquery
    exact ⟨_, rfl, by rw [hquery, fieldsIn_toQuery]; rfl⟩
  · rename_i hquery
    exact ⟨_, rfl, by rw [hquery, fieldsIn_toQuery]; rfl⟩
  · rename_i query hne hquery
    exact ⟨_, rfl, by rw [hquery, fieldsIn_append, fieldsIn_toQuery]; rfl⟩

theorem KeepsMarks.adding (h : target.KeepsMarks) (fields : Form) :
    (target.adding fields).KeepsMarks := by
  have hadded : '#' ∉ fields.toQuery.toList := notMem_toQuery rfl (by decide) (by decide) fields
  unfold Target.adding
  dsimp only
  split
  · refine ⟨h.question, h.fragment, ?_⟩
    intro query hquery
    cases hquery
    exact hadded
  · refine ⟨h.question, h.fragment, ?_⟩
    intro query hquery
    cases hquery
    exact hadded
  · rename_i own hne hown
    refine ⟨h.question, h.fragment, ?_⟩
    intro query hquery
    cases hquery
    rw [List.mem_append, List.mem_cons, not_or, not_or]
    exact ⟨h.queryFragment own hown, by decide, hadded⟩

theorem fieldsOf_adding {base : String} (h : ofText? base = some target) (fields : Form) :
    fieldsOf (target.adding fields).text.toList =
      fieldsOf (cleaned base.toList) ++ fields.pairs := by
  have hkeeps := (keepsMarks_ofText? h).adding fields
  have hown : fieldsIn (target.query.getD []) = fieldsOf (cleaned base.toList) := by
    rw [ofText?_query h, fieldsOf]
    rcases queryOf? (cleaned base.toList) with _ | query
    · rfl
    · exact fieldsIn_escaped query
  rcases target.adding_query fields with ⟨query, hquery, hfields⟩
  rw [fieldsOf, hkeeps.queryOf?_text, hquery, Option.getD_some, hfields, hown]

private theorem adding_path (target : Target) (fields : Form) :
    (target.adding fields).path = target.path := by
  unfold adding
  dsimp only
  split <;> rfl

end Target
end Http

namespace Geo

open Http

/-!
## Requests of geocoders
-/

/-- The request goes to an address, whose fields it carries in front of these others. -/
structure Asks (base : String) (target : Target) (fields : List (String × String))
    (request : Request) : Prop where
  method : request.method = "GET"
  path : request.target.path = target.path
  fields : fieldsOf request.target.text.toList = fieldsOf (cleaned base.toList) ++ fields

/--
A lookup sends one request, which carries the fields of the address of the service and then
just those that were asked for: the postal code as it is, whatever characters it holds, and
the same others for every postal code.
-/
theorem lookups_ask_for_one_code {base : String} {target : Target}
    (h : Target.ofText? base = some target) (network : Network) (postalCode : String) :
    (forall key : Option String, exists request,
      ((Google.provider network (some target) key).lookup postalCode).requests = [request] ∧
        Asks base target
          (("address", postalCode) :: (key.map fun key => ("key", key)).toList) request) ∧
    (forall username : String, exists request,
      ((GeoNames.provider network (some target) username).lookup postalCode).requests =
          [request] ∧
        Asks base target
          [("postalcode", postalCode), ("maxRows", "1"), ("username", username)] request) := by
  constructor
  · intro key
    exists Google.request target key postalCode
    constructor
    · unfold Google.provider
      dsimp only
      split <;> rfl
    · refine ⟨rfl, Target.adding_path _ _, ?_⟩
      rw [Google.request, Target.fieldsOf_adding h]
      cases key <;> rfl
  · intro username
    exists GeoNames.request target username postalCode
    constructor
    · unfold GeoNames.provider
      dsimp only
      split <;> rfl
    · refine ⟨rfl, Target.adding_path _ _, ?_⟩
      rw [GeoNames.request, Target.fieldsOf_adding h]
      rfl

/-- A service whose address has a query that ends in a separator, and a fragment. -/
def openAddress : String := "/geo?lang=d e&#top"

def openTarget : Target :=
  ⟨"/geo".toList, some "lang=d%20e&".toList⟩

theorem lookups_ask_for_one_code_amidMarks :
    Target.ofText? openAddress = some openTarget ∧
      exists request,
        ((Google.provider (fun _ => none) (some openTarget) (some "a+b")).lookup
          "1&key=2#ä").requests = [request] ∧
        fieldsOf request.target.text.toList =
          [("lang", "d e"), ("address", "1&key=2#ä"), ("key", "a+b")] := by
  have htarget : Target.ofText? openAddress = some openTarget := by
    decide
  have hown : fieldsOf (cleaned openAddress.toList) = [("lang", "d e")] := by
    decide +kernel
  rcases (lookups_ask_for_one_code htarget (fun _ => none) "1&key=2#ä").left (some "a+b") with
    ⟨request, hrequests, hasks⟩
  refine ⟨htarget, request, hrequests, ?_⟩
  rw [hasks.fields, hown]
  rfl

end Geo
end Audience
