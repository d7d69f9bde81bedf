import Audience.Proofs.PatternReading

/-!
# Spellings of dates

## The spellings

A date may be entered with or without a time of the day, in several orders of its numbers and
with the name of the month, and in the internet form with an offset from universal time.
-/

namespace Audience
namespace Time

open Text Number Timestamp

/-- A day with slashes, such as `03/15/2020`. -/
def Timestamp.slashText (t : Timestamp) : String :=
  padded 2 t.date.month ++ "/" ++ padded 2 t.date.day ++ "/" ++ yearText t.date.year

def Timestamp.minuteText (t : Timestamp) : String :=
  padded 2 (t.second / 3600) ++ ":" ++ padded 2 (t.second / 60 % 60)

/-- A day with the name of its month, such as `March 15, 2020`. -/
def Timestamp.namedText (t : Timestamp) (name : Nat -> List Char) : String :=
  String.ofList (name t.date.month) ++ " " ++ padded 2 t.date.day ++ ", " ++ yearText t.date.year

inductive DateTimeStyle where
  /-- `2020-03-15 13:30:00` -/
  | blankSeconds
  /-- `2020-03-15T13:30:00` -/
  | letterSeconds
  /-- `2020-03-15 13:30` -/
  | blankMinutes
  /-- `2020-03-15T13:30` -/
  | letterMinutes
  /-- `03/15/2020 13:30` -/
  | slashMinutes

def DateTimeStyle.text (t : Timestamp) : DateTimeStyle -> String
  | .blankSeconds => t.dateText ++ " " ++ t.clockText
  | .letterSeconds => t.dateText ++ "T" ++ t.clockText
  | .blankMinutes => t.dateText ++ " " ++ t.minuteText
  | .letterMinutes => t.dateText ++ "T" ++ t.minuteText
  | .slashMinutes => t.slashText ++ " " ++ t.minuteText

def DateTimeStyle.hasSeconds : DateTimeStyle -> Bool
  | .blankSeconds | .letterSeconds => true
  | .blankMinutes | .letterMinutes | .slashMinutes => false

inductive DayStyle where
  /-- `2020-03-15` -/
  | hyphens
  /-- `03/15/2020` -/
  | monthFirst
  /-- `2020/03/15` -/
  | yearFirst
  /-- `March 15, 2020` -/
  | fullName
  /-- `Mar 15, 2020` -/
  | shortName

def DayStyle.text (t : Timestamp) : DayStyle -> String
  | .hyphens => t.dateText
  | .monthFirst => t.slashText
  | .yearFirst =>
      yearText t.date.year ++ "/" ++ padded 2 t.date.month ++ "/" ++ padded 2 t.date.day
  | .fullName => t.namedText monthTitle
  | .shortName => t.namedText monthLetters

structure Offset where
  hours : Nat
  minutes : Nat
  hours_lt : hours < 24
  minutes_lt : minutes < 60

def Offset.text (offset : Offset) : String :=
  padded 2 offset.hours ++ ":" ++ padded 2 offset.minutes

def Offset.seconds (offset : Offset) : Int :=
  (offset.hours * 3600 + offset.minutes * 60 : Nat)

inductive Zone where
  /-- `Z` or `z` -/
  | universal (capital : Bool)
  /-- `+02:00` -/
  | ahead (offset : Offset)
  /-- `-05:30` -/
  | behind (offset : Offset)

def Zone.text : Zone -> String
  | .universal capital => if capital then "Z" else "z"
  | .ahead offset => "+" ++ offset.text
  | .behind offset => "-" ++ offset.text

/-- The seconds by which the clock of a zone is ahead of universal time. -/
def Zone.seconds : Zone -> Int
  | .universal _ => 0
  | .ahead offset => offset.seconds
  | .behind offset => -offset.seconds

inductive Separator where
  | capital
  | small
  | blank

def Separator.mark : Separator -> Char
  | .capital => 'T'
  | .small => 't'
  | .blank => ' '

/-- The internet form, such as `2020-03-15T15:30:00.25+02:00`. -/
structure InternetStyle where
  separator : Separator
  /-- The number of digits behind the point, which is left out if there are none. -/
  decimals : Nat
  zone : Zone
  decimals_le : decimals <= 9

namespace InternetStyle

def unit (style : InternetStyle) : Nat :=
  tenTo (9 - style.decimals)

def fractionText (style : InternetStyle) (t : Timestamp) : String :=
  if style.decimals = 0 then ""
  else "." ++ padded style.decimals (t.nano % nanosPerSecond / style.unit)

def text (t : Timestamp) (style : InternetStyle) : String :=
  t.dateText ++ String.singleton style.separator.mark ++ t.clockText ++ style.fractionText t ++
    style.zone.text

end InternetStyle

inductive Spelling where
  | dateTime (style : DateTimeStyle)
  | day (style : DayStyle)
  | internet (style : InternetStyle)

namespace Spelling

def text (t : Timestamp) : Spelling -> String
  | dateTime style => style.text t
  | day style => style.text t
  | internet style => style.text t

/-- The spelling shows the whole time, to the second, the minute, the day, or as many decimals
as it has. -/
def ShowsAll (t : Timestamp) : Spelling -> Prop
  | dateTime style =>
      t.nano % nanosPerSecond = 0 ∧ (style.hasSeconds = false -> t.second % 60 = 0)
  | day _ => t.second = 0 ∧ t.nano = 0
  | internet style => style.unit ∣ t.nano % nanosPerSecond

/-- The seconds by which the time that is shown is ahead of the time that is meant. -/
def ahead : Spelling -> Int
  | dateTime _ => 0
  | day _ => 0
  | internet style => style.zone.seconds

end Spelling

/-!
## Patterns of the spellings

The patterns describe different texts, so what is written by one of them is not taken by one
that is tried before it.  Texts with the name of a month begin with a letter, and all other
patterns begin with a number.
-/

def numberedDays : List (List Element) :=
  [ [.year, .mark '-', .month, .mark '-', .day],
    [.month, .mark '/', .day, .mark '/', .year],
    [.year, .mark '/', .month, .mark '/', .day] ]

def namedDay : List Element :=
  [.monthName, .blanks, .day, .mark ',', .blanks, .year]

theorem dayPatterns_eq : dayPatterns = numberedDays ++ [namedDay] :=
  rfl

/-- The patterns that consist of numbers and marks, in the order in which they are tried. -/
def numbered : List (List Element) :=
  dateTimePatterns ++ numberedDays

theorem distinguished_numbered : Distinguished numbered := by
  unfold Distinguished
  decide

theorem blind_numbered : numbered.all (·.all Element.isBlindToDigits) = true := by
  decide

theorem separated_numbered : forall pattern, pattern ∈ numbered -> isSeparated pattern = true := by
  decide

variable {t : Timestamp} {name : Nat -> List Char}

theorem readInternet_written {pattern : List Element} (hyear : HasFourDigits t.date.year)
    (hpattern : pattern ∈ numbered) : readInternet? (written t name pattern) = none := by
  have hshort : forall pattern, pattern ∈ numbered ->
      (pattern.flatMap Element.template).length < 20 := by
    decide
  have hmask : mask (written t name pattern) = pattern.flatMap Element.template :=
    mask_written hyear (List.all_eq_true.mp blind_numbered pattern hpattern)
  have hlength : (written t name pattern).length = (pattern.flatMap Element.template).length := by
    rw [← hmask, mask, List.length_map]
  rw [Option.eq_none_iff_forall_ne_some]
  intro u hu
  have hlong := length_of_readInternet hu
  have hbound := hshort pattern hpattern
  omega

/-- What one of the numbered patterns writes is not described by those that are tried before. -/
theorem readWhole_earlier {earlier later : List (List Element)} {pattern other : List Element}
    (hyear : HasFourDigits t.date.year) (hsplit : numbered = earlier ++ pattern :: later)
    (hother : other ∈ earlier) :
    readWhole? other (written t name pattern) = none := by
  have hblind := List.all_eq_true.mp blind_numbered
  have hdistinguished := distinguished_numbered
  rw [hsplit] at hblind hdistinguished
  apply readWhole_of_mask (hblind other (List.mem_append_left _ hother))
  rw [mask_written hyear (hblind pattern (List.mem_append_right _ List.mem_cons_self))]
  exact (List.pairwise_append.mp hdistinguished).right.right other hother pattern
    List.mem_cons_self

theorem findSome_none {α : Type} {patterns : List (List Element)} {value : Parts -> Option α}
    {s : List Char} (h : forall other, other ∈ patterns -> readWhole? other s = none) :
    (patterns.findSome? fun other => (readWhole? other s).bind value) = none := by
  rw [List.findSome?_eq_none_iff]
  intro other hother
  rw [h other hother]
  rfl

theorem readEntered_dateTime {pattern : List Element} (hyear : HasFourDigits t.date.year)
    (hpattern : pattern ∈ dateTimePatterns)
    (hread : (readWhole? pattern (written t name pattern)).bind Parts.timestamp? = some t) :
    readEntered? (written t name pattern) = some t := by
  have hinternet : readInternet? (written t name pattern) = none :=
    readInternet_written hyear (List.mem_append_left _ hpattern)
  rcases List.append_of_mem hpattern with ⟨earlier, later, hsplit⟩
  have hnumbered : numbered = earlier ++ pattern :: (later ++ numberedDays) := by
    rw [numbered, hsplit, List.append_assoc, List.cons_append]
  have hearlier : forall other, other ∈ earlier ->
      readWhole? other (written t name pattern) = none :=
    fun other hother => readWhole_earlier hyear hnumbered hother
  rw [readEntered?, hinternet, Option.none_or, hsplit, List.findSome?_append,
    findSome_none hearlier, Option.none_or, List.findSome?_cons, hread]
  rfl

theorem readEntered_day {earlier later : List (List Element)} {pattern : List Element}
    {s : List Char} (hinternet : readInternet? s = none)
    (hdays : dayPatterns = earlier ++ pattern :: later)
    (hearlier : forall other, other ∈ dateTimePatterns ++ earlier -> readWhole? other s = none)
    (hread : (readWhole? pattern s).bind Parts.date? = some t.date) :
    readEntered? s = some (midnight t.date) := by
  rw [List.forall_mem_append] at hearlier
  have hnone : (earlier.findSome? fun other =>
      ((readWhole? other s).bind Parts.date?).map midnight) = none := by
    rw [List.findSome?_eq_none_iff]
    intro other hother
    rw [hearlier.right other hother]
    rfl
  rw [readEntered?, hinternet, Option.none_or, findSome_none hearlier.left, Option.none_or, hdays,
    List.findSome?_append, hnone, Option.none_or, List.findSome?_cons, hread]
  rfl

theorem readEntered_numberedDay {pattern : List Element} (hyear : HasFourDigits t.date.year)
    (hpattern : pattern ∈ numberedDays)
    (hread : (readWhole? pattern (written t name pattern)).bind Parts.date? = some t.date) :
    readEntered? (written t name pattern) = some (midnight t.date) := by
  rcases List.append_of_mem hpattern with ⟨earlier, later, hsplit⟩
  have hnumbered : numbered = dateTimePatterns ++ earlier ++ pattern :: later := by
    rw [numbered, hsplit, List.append_assoc]
  have hdays : dayPatterns = earlier ++ pattern :: (later ++ [namedDay]) := by
    rw [dayPatterns_eq, hsplit, List.append_assoc, List.cons_append]
  exact readEntered_day (readInternet_written hyear (List.mem_append_right _ hpattern)) hdays
    (fun other hother => readWhole_earlier hyear hnumbered hother) hread

def IsNoNumber (c : Char) : Prop :=
  c.isDigit = false ∧ isBlank c = false ∧ c ≠ '-' ∧ c ≠ '+'

private theorem readWhole_noNumber {pattern : List Element} (hpattern : pattern ∈ numbered)
    {c : Char}
    (hc : IsNoNumber c) (s : List Char) : readWhole? pattern (c :: s) = none := by
  rcases hc with ⟨hdigit, hblank, hminus, hplus⟩
  have hstart : trimStart (c :: s) = c :: s := by
    rw [trimStart, List.dropWhile_cons_of_neg]
    simp [hblank]
  have hnumber : forall most, readNumber? most (c :: s) = none := by
    intro most
    have hread : ((c :: s).take most).takeWhile Char.isDigit = [] :=
      takeWhile_noDigitFirst (noDigitFirst_cons hdigit s) most
    rw [readNumber?, hread]
    rfl
  have hfirst : forall pattern, pattern ∈ numbered ->
      exists elements, pattern = .year :: elements ∨ pattern = .month :: elements := by
    have hheads : forall pattern, pattern ∈ numbered ->
        pattern.head? = some .year ∨ pattern.head? = some .month := by
      decide
    intro pattern hpattern
    rcases hheads pattern hpattern with h | h
    · exact ⟨pattern.tail, Or.inl (List.eq_cons_of_mem_head? h)⟩
    · exact ⟨pattern.tail, Or.inr (List.eq_cons_of_mem_head? h)⟩
  have hyear : readYear? (c :: s) = none := by
    rw [Option.eq_none_iff_forall_ne_some]
    intro h hread
    rcases h with ⟨year, rest⟩
    rcases readYear_cases hread with ⟨sign, digits, n, hsign, htrim, _⟩ | ⟨n, hn⟩
    · rw [hstart] at htrim
      cases htrim
      rcases hsign with h | h
      · exact hminus h
      · exact hplus h
    · rw [hstart, hnumber] at hn
      cases hn
  rcases hfirst pattern hpattern with ⟨elements, rfl | rfl⟩
  · rw [readWhole?, readElements?, Element.read?, hyear]
    rfl
  · rw [readWhole?, readElements?, Element.read?, readField?, hstart, hnumber]
    rfl

private theorem readInternet_noDigit {c : Char} (hc : c.isDigit = false) (s : List Char) :
    readInternet? (c :: s) = none := by
  have hfour : readExactly? 4 (c :: s) = none := by
    have hdigit : digit? c = none := by
      rw [digit?, hc]
      rfl
    unfold readExactly?
    dsimp only
    split
    · rw [List.take_succ_cons, natural?, digitsFrom?, hdigit]
      rfl
    · rfl
  rw [readInternet?, hfour]
  rfl

theorem readEntered_namedDay (hname : NamesMonths name)
    (hletter : exists c rest, name t.date.month = c :: rest ∧ IsNoNumber c) :
    readEntered? (written t name namedDay) = some (midnight t.date) := by
  have hread : (readWhole? namedDay (written t name namedDay)).bind Parts.date? = some t.date := by
    rw [readWhole_written hname (by decide)]
    exact dif_pos t.date.isDate
  rcases hletter with ⟨c, rest, hmonth, hc⟩
  have hwritten : exists s, written t name namedDay = c :: s := by
    refine ⟨rest ++ written t name [.blanks, .day, .mark ',', .blanks, .year], ?_⟩
    rw [namedDay, written_cons, Element.written, hmonth, List.cons_append]
  rcases hwritten with ⟨s, hs⟩
  rw [hs] at hread ⊢
  exact readEntered_day (readInternet_noDigit hc.left s) dayPatterns_eq
    (fun other hother => readWhole_noNumber hother hc s) hread

theorem monthTitle_begins {month : Nat} (hlow : 1 <= month) (hhigh : month <= 12) :
    exists c rest, monthTitle month = c :: rest ∧ IsNoNumber c := by
  interval_cases month <;> exact ⟨_, _, rfl, by decide, by decide, by decide, by decide⟩

theorem monthLetters_begins {month : Nat} (hlow : 1 <= month) (hhigh : month <= 12) :
    exists c rest, monthLetters month = c :: rest ∧ IsNoNumber c := by
  rcases monthTitle_begins hlow hhigh with ⟨c, rest, hmonth, hc⟩
  exact ⟨c, rest.take 2, by rw [monthLetters, hmonth, List.take_succ_cons], hc⟩

/-!
## Spellings without an offset
-/

def DateTimeStyle.pattern : DateTimeStyle -> List Element
  | .blankSeconds =>
      [.year, .mark '-', .month, .mark '-', .day, .blanks, .hour, .mark ':', .minute,
        .mark ':', .second]
  | .letterSeconds =>
      [.year, .mark '-', .month, .mark '-', .day, .mark 'T', .hour, .mark ':', .minute,
        .mark ':', .second]
  | .blankMinutes =>
      [.year, .mark '-', .month, .mark '-', .day, .blanks, .hour, .mark ':', .minute]
  | .letterMinutes =>
      [.year, .mark '-', .month, .mark '-', .day, .mark 'T', .hour, .mark ':', .minute]
  | .slashMinutes =>
      [.month, .mark '/', .day, .mark '/', .year, .blanks, .hour, .mark ':', .minute]

theorem DateTimeStyle.pattern_mem (style : DateTimeStyle) : style.pattern ∈ dateTimePatterns := by
  cases style <;> decide

theorem DateTimeStyle.toList_text (style : DateTimeStyle) :
    (style.text t).toList = written t monthTitle style.pattern := by
  cases style <;>
    simp [text, pattern, dateText, slashText, clockText, minuteText, written, Element.written,
      shownSecond]

private theorem timestamp_of_shown (second nano : Nat) :
    Parts.timestamp? ⟨some t.date.year, some t.date.month, some t.date.day,
        some (t.second / 3600), some (t.second / 60 % 60), second, nano⟩ =
      ofClock? t.date (t.second / 3600) (t.second / 60 % 60) second nano := by
  have hdate : Date.of? t.date.year t.date.month t.date.day = some t.date := dif_pos t.date.isDate
  rw [Parts.timestamp?, Parts.date?]
  dsimp only
  rw [hdate]

theorem DateTimeStyle.readEntered_text (style : DateTimeStyle) (hyear : HasFourDigits t.date.year)
    (hwhole : t.nano % nanosPerSecond = 0)
    (hminutes : style.hasSeconds = false -> t.second % 60 = 0) :
    readEntered? (style.text t).toList = some t := by
  have hshown := ofClock_shown t
  rw [hwhole] at hshown
  have hnoSecond : style.hasSeconds = false -> t.shownSecond = 0 := by
    intro hstyle
    have hminute := hminutes hstyle
    rcases t.leap_cases with hnano | ⟨_, hlast⟩
    · rw [shownSecond, hminute, hnano]
    · omega
  rw [toList_text]
  apply readEntered_dateTime hyear style.pattern_mem
  rw [readWhole_written namesMonths_title (separated_numbered _
    (List.mem_append_left _ style.pattern_mem)), Option.bind_some]
  cases style with
  | blankSeconds =>
      exact (timestamp_of_shown _ _).trans hshown
  | letterSeconds =>
      exact (timestamp_of_shown _ _).trans hshown
  | _ =>
      rw [hnoSecond rfl] at hshown
      exact (timestamp_of_shown _ _).trans hshown

/-- The names of the months in a style, of which some styles make no use. -/
def DayStyle.names : DayStyle -> Nat -> List Char
  | .shortName => monthLetters
  | _ => monthTitle

def DayStyle.pattern : DayStyle -> List Element
  | .hyphens => [.year, .mark '-', .month, .mark '-', .day]
  | .monthFirst => [.month, .mark '/', .day, .mark '/', .year]
  | .yearFirst => [.year, .mark '/', .month, .mark '/', .day]
  | .fullName => namedDay
  | .shortName => namedDay

theorem DayStyle.toList_text (style : DayStyle) :
    (style.text t).toList = written t style.names style.pattern := by
  cases style <;>
    simp [text, names, pattern, dateText, slashText, namedText, namedDay, written, Element.written]

theorem DayStyle.namesMonths (style : DayStyle) : NamesMonths style.names := by
  cases style with
  | shortName =>
      exact namesMonths_letters
  | _ =>
      exact namesMonths_title

theorem DayStyle.names_begin (style : DayStyle) (t : Timestamp) :
    exists c rest, style.names t.date.month = c :: rest ∧ IsNoNumber c := by
  rcases t.date.isDate with ⟨_, _, hmonth, htwelve, _⟩
  cases style with
  | shortName =>
      exact monthLetters_begins hmonth htwelve
  | _ =>
      exact monthTitle_begins hmonth htwelve

theorem DayStyle.pattern_cases (style : DayStyle) :
    style.pattern ∈ numberedDays ∨ style.pattern = namedDay := by
  cases style <;> decide

theorem DayStyle.readEntered_text (style : DayStyle) (hyear : HasFourDigits t.date.year) :
    readEntered? (style.text t).toList = some (midnight t.date) := by
  rw [toList_text]
  rcases style.pattern_cases with hnumbered | hnamed
  · apply readEntered_numberedDay hyear hnumbered
    rw [readWhole_written style.namesMonths (separated_numbered _
      (List.mem_append_right _ hnumbered)), Option.bind_some]
    cases style <;> exact dif_pos t.date.isDate
  · rw [hnamed]
    exact readEntered_namedDay style.namesMonths (style.names_begin t)

end Time
end Audience
