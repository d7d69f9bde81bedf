import Audience.Proofs.PatternReading
import Audience.Proofs.Usable
import Audience.Selection
import Audience.Statement.Rendering

/-!
# Times in statements

## Whole seconds

A statement shows a time down to the second.  Read as an entry again, it is the time without
the fraction of its second; a leap second is shown as second 60 and remains one.
-/

namespace Audience
namespace Time

namespace Timestamp

open Number Text

def wholeSecond (t : Timestamp) : Timestamp where
  date := t.date
  second := t.second
  nano := t.nano / nanosPerSecond * nanosPerSecond
  isClock := by
    have hclock := t.isClock
    unfold IsClock nanosPerSecond at hclock ⊢
    omega

theorem wholeSecond_eq_iff (t : Timestamp) :
    t.wholeSecond = t <-> t.nano % nanosPerSecond = 0 := by
  have hdivision := Nat.div_add_mod' t.nano nanosPerSecond
  constructor
  · intro h
    have hnano : t.nano / nanosPerSecond * nanosPerSecond = t.nano := congrArg nano h
    omega
  · intro h
    have hnano : t.nano / nanosPerSecond * nanosPerSecond = t.nano := by omega
    cases t
    simp only [wholeSecond, mk.injEq, true_and]
    exact hnano

/-!
## The written form
-/

theorem toList_sqlText (t : Timestamp) :
    t.sqlText.toList =
      (yearText t.date.year).toList ++ '-' :: ((padded 2 t.date.month).toList ++
        '-' :: ((padded 2 t.date.day).toList ++ ' ' :: ((padded 2 (t.second / 3600)).toList ++
          ':' :: ((padded 2 (t.second / 60 % 60)).toList ++
            ':' :: ((padded 2 t.shownSecond).toList ++ []))))) := by
  simp [sqlText, dateText, clockText, shownSecond]

theorem readWhole_sqlText (t : Timestamp) :
    readWhole?
        [.year, .mark '-', .month, .mark '-', .day, .blanks, .hour, .mark ':', .minute,
          .mark ':', .second] t.sqlText.toList =
      some ⟨some t.date.year, some t.date.month, some t.date.day, some (t.second / 3600),
        some (t.second / 60 % 60), t.shownSecond, 0⟩ := by
  have hwritten : t.sqlText.toList = written t monthTitle
      [.year, .mark '-', .month, .mark '-', .day, .blanks, .hour, .mark ':', .minute,
        .mark ':', .second] := by
    simp only [toList_sqlText, written, List.flatMap_cons, List.flatMap_nil, Element.written,
      List.singleton_append]
  rw [hwritten, readWhole_written namesMonths_title (by decide)]
  rfl

/-- The numbers that are shown name the time, with second 60 for a leap second. -/
theorem ofClock_sqlText (t : Timestamp) :
    ofClock? t.date (t.second / 3600) (t.second / 60 % 60) t.shownSecond 0 =
      some t.wholeSecond := by
  have hunit : 0 < nanosPerSecond := by decide
  have hsecond : t.wholeSecond.shownSecond = t.shownSecond := by
    simp only [shownSecond, wholeSecond, Nat.mul_div_cancel _ hunit]
  have hnano : t.wholeSecond.nano % nanosPerSecond = 0 := by
    simp only [wholeSecond, Nat.mul_mod_left]
  rw [← hsecond, ← hnano]
  exact ofClock_shown t.wholeSecond

/-!
## Reading the form again

Without an offset the form is no internet form, and the first of the other patterns describes
it.
-/

private theorem sqlText_ends (t : Timestamp) :
    exists front, t.sqlText.toList = front ++ (padded 2 t.shownSecond).toList := by
  refine ⟨(t.dateText ++ " " ++ (padded 2 (t.second / 3600) ++ ":" ++
    padded 2 (t.second / 60 % 60) ++ ":")).toList, ?_⟩
  simp [sqlText, clockText, shownSecond]

theorem trim_sqlText (t : Timestamp) : trim t.sqlText.toList = t.sqlText.toList := by
  apply trim_of_ends
  · rcases head_yearText t.date.year with ⟨c, rest, hyear, hc⟩
    rw [toList_sqlText, hyear]
    intro d hd
    cases hd
    rcases hc with ⟨hdigit, _⟩ | rfl | rfl
    · exact isBlank_of_isDigit hdigit
    · rfl
    · rfl
  · rcases t.sqlText_ends with ⟨front, hfront⟩
    rw [hfront, List.getLast?_append_of_ne_nil _ (padded_ne_nil 2 _)]
    intro d hd
    exact isBlank_of_isDigit (digits_padded 2 _ d (List.mem_of_getLast? hd))

theorem length_sqlText {t : Timestamp} (hlow : 0 <= t.date.year) (hhigh : t.date.year <= 9999) :
    t.sqlText.toList.length = 19 := by
  rcases t.fields_small with ⟨hmonth, hday, hhour, hminute, hsecond⟩
  have hyear : yearText t.date.year = padded 4 t.date.year.natAbs := by
    rw [yearText, if_neg (by omega), if_neg (by omega)]
  have hfour : t.date.year.natAbs < tenTo 4 := by
    have hbound : tenTo 4 = 10000 := rfl
    omega
  have htwo : forall n, n < 100 -> (padded 2 n).toList.length = 2 :=
    fun n hn => length_padded (by decide) hn
  rw [toList_sqlText, hyear]
  simp only [List.length_append, List.length_cons, List.length_nil,
    length_padded (by decide) hfour, htwo _ hmonth, htwo _ hday, htwo _ hhour, htwo _ hminute,
    htwo _ hsecond]

/-- The form has no offset, and a year with a sign is no year of the internet form. -/
private theorem readInternet_sqlText (t : Timestamp) : readInternet? t.sqlText.toList = none := by
  rcases head_yearText t.date.year with ⟨c, rest, hyear, ⟨_, hlow, hhigh⟩ | hsign⟩
  · rw [Option.eq_none_iff_forall_not_mem]
    intro s hs
    have hlong := length_of_readInternet hs
    rw [length_sqlText hlow hhigh] at hlong
    omega
  · have hnone : forall s, readExactly? 4 (c :: s) = none := by
      intro s
      unfold readExactly?
      dsimp only
      split
      · rcases hsign with rfl | rfl <;> rfl
      · rfl
    rw [toList_sqlText, hyear, List.cons_append, readInternet?, hnone]
    rfl

/-- The form is read as the time without the fraction of its second. -/
theorem readEntered_sqlText (t : Timestamp) :
    readEntered? (trim t.sqlText.toList) = some t.wholeSecond := by
  have hdate : Date.of? t.date.year t.date.month t.date.day = some t.date :=
    dif_pos t.date.isDate
  rw [trim_sqlText, readEntered?, readInternet_sqlText, Option.none_or, dateTimePatterns]
  dsimp only [List.cons_append, List.nil_append]
  rw [List.findSome?_cons, readWhole_sqlText, Option.bind_some, Parts.timestamp?, Parts.date?]
  dsimp only
  rw [hdate]
  dsimp only
  rw [ofClock_sqlText]
  rfl

/-!
## Fractions of entered times

Only the internet form has fractions of seconds.
-/

private theorem nano_of_of {date : Date} {second nano : Nat} {t : Timestamp}
    (h : of? date second nano = some t) : t.nano = nano := by
  unfold of? at h
  split at h
  · cases h
    rfl
  · cases h

private theorem nano_of_ofClock {date : Date} {hour minute second nano : Nat} {t : Timestamp}
    (h : ofClock? date hour minute second nano = some t) : t.nano % nanosPerSecond = nano := by
  unfold ofClock? at h
  split at h
  · rename_i hinside
    have hnano : nano < nanosPerSecond := by
      simp only [Bool.and_eq_true, decide_eq_true_eq] at hinside
      exact hinside.right
    split at h
    · rw [nano_of_of h, Nat.add_mod_left, Nat.mod_eq_of_lt hnano]
    · rw [nano_of_of h, Nat.mod_eq_of_lt hnano]
  · cases h

private theorem nano_of_pattern {pattern : List Element} {s : List Char} {t : Timestamp}
    (hfraction : .fraction ∉ pattern)
    (h : (readWhole? pattern s).bind Parts.timestamp? = some t) :
    t.nano % nanosPerSecond = 0 := by
  rcases Option.bind_eq_some_iff.mp h with ⟨parts, hparts, htime⟩
  have hnano : parts.nano = 0 := by
    unfold readWhole? at hparts
    split at hparts
    · rename_i hread
      cases hparts
      exact nano_of_readElements hfraction hread
    · cases hparts
  unfold Parts.timestamp? at htime
  split at htime
  · rw [nano_of_ofClock htime, hnano]
  · cases htime

theorem nano_of_readEntered {s : List Char} {t : Timestamp} (hform : readInternet? s = none)
    (h : readEntered? s = some t) : t.nano % nanosPerSecond = 0 := by
  rw [readEntered?, hform, Option.none_or] at h
  rcases Option.or_eq_some_iff.mp h with htime | ⟨_, hday⟩
  · rcases List.exists_of_findSome?_eq_some htime with ⟨pattern, hpattern, hread⟩
    have hfractions : forall pattern, pattern ∈ dateTimePatterns -> .fraction ∉ pattern := by
      decide
    exact nano_of_pattern (hfractions pattern hpattern) hread
  · rcases List.exists_of_findSome?_eq_some hday with ⟨pattern, _, hread⟩
    rcases Option.map_eq_some_iff.mp hread with ⟨date, _, rfl⟩
    rfl

theorem le_wholeSecond_iff (t : Timestamp) :
    t.le t.wholeSecond = true <-> t.nano % nanosPerSecond = 0 := by
  have hdivision := Nat.div_add_mod' t.nano nanosPerSecond
  have hnano : t.wholeSecond.nano = t.nano / nanosPerSecond * nanosPerSecond := rfl
  have hordinal : t.wholeSecond.ordinal = t.ordinal - t.nano + t.wholeSecond.nano := by
    simp only [ordinal, wholeSecond]
    omega
  rw [le, decide_eq_true_iff, hordinal]
  omega

end Timestamp

/-!
## Literals of a statement
-/

open Text Timestamp

def isPlainChar (c : Char) : Bool :=
  !(c == Statement.singleQuote || c == '\\' || Statement.isControl c)

private theorem isPlainChar_of_isDigit {c : Char} (h : c.isDigit = true) :
    isPlainChar c = true := by
  rcases toNat_of_isDigit h with ⟨hlow, hhigh⟩
  have hquote : c ≠ Statement.singleQuote := by
    intro h
    rcases h with rfl
    exact absurd hlow (by decide)
  have hbackslash : c ≠ '\\' := by
    intro h
    rcases h with rfl
    exact absurd hhigh (by decide)
  have hcontrol : Statement.isControl c = false := by
    simp [Statement.isControl]
    omega
  simp [isPlainChar, hquote, hbackslash, hcontrol]

theorem plain_padded (width n : Nat) : (padded width n).toList.all isPlainChar = true := by
  rw [List.all_eq_true]
  intro c hc
  exact isPlainChar_of_isDigit (Number.digits_padded width n c hc)

private theorem plain_yearText (year : Int) : (yearText year).toList.all isPlainChar = true := by
  have hdigits := plain_padded 4 year.natAbs
  unfold yearText
  dsimp only
  split
  · rw [String.toList_append, List.all_append, hdigits]
    rfl
  · split
    · rw [String.toList_append, List.all_append, hdigits]
      rfl
    · exact hdigits

private theorem quotedText_sqlText (t : Timestamp) :
    Statement.quotedText t.sqlText.toList =
      Statement.singleQuote :: t.sqlText.toList ++ [Statement.singleQuote] := by
  have hplain : t.sqlText.toList.all isPlainChar = true := by
    rw [toList_sqlText]
    simp only [List.all_append, List.all_cons, List.all_nil, plain_padded, plain_yearText]
    decide
  have hescapes : ¬ Statement.needsEscapes t.sqlText.toList = true := by
    rw [Statement.needsEscapes, List.any_eq_true]
    intro h
    rcases h with ⟨c, hc, hescaped⟩
    have hchar := List.all_eq_true.mp hplain c hc
    rw [isPlainChar, hescaped] at hchar
    cases hchar
  rw [Statement.quotedText, if_neg hescapes]

/-- What becomes of a time that was entered, when a statement shows it. -/
structure ShownAs (filter raw : String) (t : Timestamp) (literal : String) : Prop where
  /-- The condition on the date of creation compares with the literal. -/
  created :
    forall comparison, Statement.condition (.created comparison t) =
      .test (.compare (.field (Statement.userField "created_at")) comparison (.text literal))
  /-- So does the last test of a lookup that counts from the time. -/
  since :
    forall figure, exists tests, (Statement.figureLookup figure (some t)).tests =
      tests ++ [.compare
        (.field ⟨(Statement.figureLookup figure (some t)).table, "created_at"⟩) .gte
        (.text literal)]
  /-- The literal stands between quotes as it is. -/
  quoted :
    (Statement.Literal.text literal).pieces.flatMap Statement.Piece.chars =
      Statement.singleQuote :: literal.toList ++ [Statement.singleQuote]
  /-- Entered again, it is the time without the fraction of its second. -/
  read : Entry.date filter literal = .ok t.wholeSecond
  exactly : Entry.date filter literal = .ok t <-> t.nano % nanosPerSecond = 0
  /-- As a bound it compares like the time itself only if the time has no fraction. -/
  bound :
    (forall (comparison : Comparison) (time : Timestamp),
        comparison.ofTimes time t.wholeSecond = comparison.ofTimes time t) <->
      t.nano % nanosPerSecond = 0
  /-- Only the internet form has fractions. -/
  spelled : readInternet? (trim raw.toList) = none -> t.nano % nanosPerSecond = 0

/--
A time that was entered is shown in a statement as a literal that can be entered again.  It
is the same time, and the same bound, exactly if the time has no fraction of a second.
-/
theorem literal_of_entered (filter raw : String) (t : Timestamp)
    (h : Entry.date filter raw = .ok t) :
    exists literal, Statement.timeLiteral t = .text literal ∧ ShownAs filter raw t literal := by
  have hread : Entry.date filter t.sqlText = .ok t.wholeSecond :=
    Entry.date_eq_ok.mpr t.readEntered_sqlText
  refine ⟨t.sqlText, rfl, ?_⟩
  constructor
  case created =>
    intro comparison
    rfl
  case since =>
    intro figure
    cases figure with
    | distinctOpens =>
        exact ⟨[Statement.ownedBy "core_open" "user_id"], rfl⟩
    | distinctActions =>
        exact ⟨[Statement.ownedBy "core_action" "user_id"], rfl⟩
    | completedTotal =>
        exact ⟨_, rfl⟩
    | completedCount =>
        exact ⟨_, rfl⟩
  case quoted =>
    rw [Statement.Literal.pieces, List.flatMap_singleton]
    exact quotedText_sqlText t
  case read =>
    exact hread
  case exactly =>
    rw [hread, Except.ok.injEq, wholeSecond_eq_iff]
  case bound =>
    constructor
    · intro hsame
      have hlate := hsame .lte t
      have hself : Comparison.ofTimes .lte t t = true := by
        simp [Comparison.ofTimes, le]
      rw [hself] at hlate
      exact (le_wholeSecond_iff t).mp hlate
    · intro hnano comparison time
      rw [(wholeSecond_eq_iff t).mpr hnano]
  case spelled =>
    intro hform
    exact nano_of_readEntered hform (Entry.date_eq_ok.mp h)

def halfSecond : String :=
  "2021-07-19T08:30:00.5Z"

def halfSecondTime : Timestamp :=
  ⟨⟨2021, 7, 19, by decide⟩, 30600, 500000000, by decide⟩

theorem literal_of_halfSecond :
    exists literal, Entry.date "created_before" halfSecond = .ok halfSecondTime ∧
      Statement.timeLiteral halfSecondTime = .text literal ∧
      Entry.date "created_before" literal = .ok halfSecondTime.wholeSecond := by
  have hread : Entry.date "created_before" halfSecond = .ok halfSecondTime := by
    rfl
  rcases literal_of_entered _ _ _ hread with ⟨literal, hliteral, hshown⟩
  exact ⟨literal, hread, hliteral, hshown.read⟩

/-- The literal of a time with a fraction is entered as another time, and as another bound. -/
theorem literal_loses_fraction :
    exists other, Entry.date "created_before" halfSecond = .ok halfSecondTime ∧
      Statement.timeLiteral halfSecondTime = .text "2021-07-19 08:30:00" ∧
      Entry.date "created_before" "2021-07-19 08:30:00" = .ok other ∧
      other ≠ halfSecondTime ∧
      Comparison.ofTimes .lte halfSecondTime halfSecondTime = true ∧
      Comparison.ofTimes .lte halfSecondTime other = false := by
  have hshown : halfSecondTime.sqlText = "2021-07-19 08:30:00" := by
    decide
  have hread : Entry.date "created_before" "2021-07-19 08:30:00" =
      .ok halfSecondTime.wholeSecond := by
    rw [← hshown]
    exact Entry.date_eq_ok.mpr halfSecondTime.readEntered_sqlText
  refine ⟨_, rfl, congrArg Statement.Literal.text hshown, hread, ?_, ?_, ?_⟩
  · decide
  · decide
  · decide

end Time
end Audience
