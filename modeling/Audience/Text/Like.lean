import Audience.Text.Case

/-!
# Wildcard patterns

In a pattern a percent sign stands for any text, an underscore for any one character, and
every other character for itself in either case.  A pattern matches a text when it
describes the text from end to end.

The matcher computes, for the whole pattern, which ends of the text it matches, and does so
from the end of the pattern to its front, so no choice is ever taken back.
-/

namespace Audience
namespace Text

/-- For each end of a text, from the longest to the empty one, whether any end that is not
longer is marked. -/
def markedLater : List Bool -> List Bool
  | [] => []
  | mark :: marks =>
      let later := markedLater marks
      (mark || later.headD false) :: later

/-- The ends of a text that begin with a character accepted by `accepts` and go on with a
marked end. -/
def markedAfter (accepts : Char -> Bool) (text : List Char) (marks : List Bool) : List Bool :=
  List.zipWith (fun c mark => accepts c && mark) text marks.tail ++ [false]

def matchedEnds (text : List Char) : List Char -> List Bool
  | [] => List.replicate text.length false ++ [true]
  | c :: pattern =>
      let marks := matchedEnds text pattern
      if c == '%' then markedLater marks
      else if c == '_' then markedAfter (fun _ => true) text marks
      else markedAfter (fun d => d == foldChar c) text marks

def like (pattern text : List Char) : Bool :=
  (matchedEnds (text.map foldChar) pattern).headD false

end Text
end Audience
