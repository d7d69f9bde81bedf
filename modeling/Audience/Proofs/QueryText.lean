import Audience.Compiler
import Audience.Proofs.EncodedText
import Audience.Proofs.Splitting

/-!
# Query texts keep forms

## Segments

A form is written as segments between ampersands, and a segment as a key and a value around
an equals sign.  Keys and values are encoded, so that neither sign nor a question mark stands
in them, and a segment is never empty.
-/

namespace Audience

namespace Text

theorem splitOn_intercalate {sep : Char} {part : List Char} {parts : List (List Char)}
    (h : forall one, one ∈ part :: parts -> sep ∉ one) :
    splitOn sep (List.intercalate [sep] (part :: parts)) = part :: parts := by
  induction parts generalizing part with
  | nil =>
      rw [List.intercalate_singleton]
      exact splitOn_of_notMem (h part List.mem_cons_self)
  | cons next parts ih =>
      rw [List.forall_mem_cons] at h
      rw [List.intercalate_cons_cons, List.append_assoc, List.singleton_append,
        splitOn_append h.left, ih h.right]

end Text

namespace Form

open Text

@[simp] theorem fieldOf_segmentOf (field : String × String) :
    fieldOf (segmentOf field) = field := by
  rw [fieldOf, segmentOf, cutAt?_of_notMem (notMem_encode rfl _)]
  simp

theorem notMem_segmentOf {sep : Char} (hsep : isWritten sep = false) (hne : sep ≠ '=')
    (field : String × String) :
    sep ∉ segmentOf field := by
  rw [segmentOf, List.mem_append, List.mem_cons, not_or, not_or]
  exact ⟨notMem_encode hsep _, hne, notMem_encode hsep _⟩

theorem segmentOf_ne_nil (field : String × String) : segmentOf field ≠ [] := by
  rw [segmentOf]
  exact List.append_ne_nil_of_right_ne_nil _ (List.cons_ne_nil _ _)

theorem withoutMark_of_notMem {text : List Char} (h : '?' ∉ text) : withoutMark text = text := by
  unfold withoutMark
  split
  · exact absurd List.mem_cons_self h
  · rfl

/-!
## Whole forms
-/

theorem toList_toQuery (form : Form) :
    form.toQuery.toList = List.intercalate ['&'] (form.pairs.map segmentOf) := by
  rw [toQuery, String.toList_ofList]

theorem notMem_toQuery {sep : Char} (hsep : isWritten sep = false) (hequals : sep ≠ '=')
    (hampersand : sep ≠ '&') (form : Form) : sep ∉ form.toQuery.toList := by
  rw [toList_toQuery]
  intro h
  rcases mem_intercalate h with hmark | ⟨segment, hsegment, hmem⟩
  · exact hampersand (List.mem_singleton.mp hmark)
  · rcases List.mem_map.mp hsegment with ⟨field, _, rfl⟩
    exact notMem_segmentOf hsep hequals field hmem

def segments (text : List Char) : List (List Char) :=
  (splitOn '&' text).filter fun part => !part.isEmpty

theorem segments_intercalate (fields : List (String × String)) :
    segments (List.intercalate ['&'] (fields.map segmentOf)) = fields.map segmentOf := by
  have hparts : forall part, part ∈ fields.map segmentOf -> '&' ∉ part ∧ part ≠ [] := by
    intro part hpart
    rcases List.mem_map.mp hpart with ⟨field, _, rfl⟩
    exact ⟨notMem_segmentOf rfl (by decide) field, segmentOf_ne_nil field⟩
  cases fields with
  | nil =>
      rfl
  | cons field fields =>
      rw [segments, List.map_cons, splitOn_intercalate fun part hpart => (hparts part hpart).left,
        List.filter_eq_self]
      intro part hpart
      rw [Bool.not_eq_true', List.isEmpty_eq_false_iff]
      exact (hparts part hpart).right

@[simp] theorem ofQuery_toQuery (form : Form) : ofQuery form.toQuery = form := by
  have hsegments : (ofQuery form.toQuery).pairs =
      (segments (withoutMark form.toQuery.toList)).map fieldOf := rfl
  have hmark : '?' ∉ form.toQuery.toList := notMem_toQuery rfl (by decide) (by decide) form
  rw [withoutMark_of_notMem hmark, toList_toQuery, segments_intercalate,
    List.map_map] at hsegments
  have hfields : (fieldOf ∘ segmentOf) = id := funext fieldOf_segmentOf
  rw [hfields, List.map_id] at hsegments
  exact congrArg Form.mk hsegments

/--
A form is read back from its query text, whatever its keys and values are.  So a request is
compiled alike from its fields and from their text, and a text that was written once stays
as it is.
-/
theorem query_text_keeps_form :
    (forall form : Form, ofQuery form.toQuery = form) ∧
      (forall (compiler : Compiler) (form : Form) (log : List String),
        compiler.compileFields form log = compiler.compile form.toQuery log) ∧
      forall text : String,
        (ofQuery (ofQuery text).toQuery).toQuery = (ofQuery text).toQuery := by
  refine ⟨ofQuery_toQuery, ?_, ?_⟩
  · intro compiler form log
    rw [Compiler.compile, ofQuery_toQuery, Compiler.compileFields]
  · intro text
    rw [ofQuery_toQuery]

end Form
end Audience
