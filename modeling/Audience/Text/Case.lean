import Audience.Text.CaseTable

/-!
# Lower case and case folding

Two texts are alike up to case when their characters are the same after simple case
folding, one character at a time.  Writing a text in lower case may change its length:
one capital has a lower-case form of two characters, and a sigma at the end of a word
has a form of its own.
-/

namespace Audience
namespace Text

def CaseRun.covers (run : CaseRun) (n : Nat) : Bool :=
  run.first <= n && n <= run.last && (n - run.first) % run.step == 0

def mappedBy (runs : List CaseRun) (c : Char) : Char :=
  match runs.find? fun run => run.covers c.toNat with
  | some run => Char.ofNat ((c.toNat : Int) + run.shift).toNat
  | none => c

/-- The lower-case form of a character that has one of a single character. -/
def lowerChar (c : Char) : Char :=
  if c.toNat < 0x80 then c.toLower else mappedBy lowerRuns c

def foldChar (c : Char) : Char :=
  if c.toNat < 0x80 then c.toLower else mappedBy foldRuns c

def inRanges (ranges : List (Nat × Nat)) (n : Nat) : Bool :=
  ranges.any fun (low, high) => low <= n && n <= high

/-- Whether the first character that casing does not look through has case. -/
def beginsCased (s : List Char) : Bool :=
  match s.dropWhile fun c => inRanges caseIgnorableRanges c.toNat with
  | c :: _ => inRanges casedRanges c.toNat
  | [] => false

/-- The lower-case form of a text, given what stands before it, nearest character first. -/
def lowerAfter : List Char -> List Char -> List Char
  | _, [] => []
  | before, c :: rest =>
      let written : List Char :=
        if c == '\u03A3' then
          [if beginsCased before && !beginsCased rest then '\u03C2' else '\u03C3']
        else if c == '\u0130' then
          ['i', '\u0307']
        else
          [lowerChar c]
      written ++ lowerAfter (c :: before) rest

def lower (s : List Char) : List Char :=
  lowerAfter [] s

def lowered (s : String) : String :=
  String.ofList (lower s.toList)

def sameIgnoringAsciiCase (s t : List Char) : Bool :=
  s.map Char.toLower == t.map Char.toLower

end Text
end Audience
