/-!
# Occurrences of a text in a text

Occurrences are counted from the left without overlap: the search goes on behind
the occurrence just found.
-/

namespace Audience
namespace Text

def occurs (mark : List Char) : List Char -> Bool
  | [] => mark.isEmpty
  | c :: rest => mark.isPrefixOf (c :: rest) || occurs mark rest

/-- The text around the occurrences of a non-empty mark, in order. -/
def around (mark : List Char) : List Char -> List (List Char)
  | [] => [[]]
  | c :: rest =>
      match mark with
      | [] => [c :: rest]
      | m :: marks =>
          if m == c && marks.isPrefixOf rest then
            [] :: around (m :: marks) (rest.drop marks.length)
          else
            match around (m :: marks) rest with
            | [] => [[c]]
            | part :: parts => (c :: part) :: parts
termination_by s => s.length
decreasing_by
  all_goals
    simp only [List.length_cons, List.length_drop]
    omega

/-- How often a non-empty mark occurs, without overlap. -/
def occurrences (mark s : List Char) : Nat :=
  (around mark s).length - 1

def replaceAll (mark replacement s : List Char) : List Char :=
  List.intercalate replacement (around mark s)

end Text
end Audience
