import Mathlib.Tactic.IntervalCases
import Audience.Proofs.Calendar
import Audience.Proofs.DateReading

/-!
# Patterns and the texts they write

## Shown times

A time is shown by the numbers of its day, of its clock, and of the nanoseconds behind.  A leap
second is shown as second 60.
-/

namespace Audience
namespace Time

open Text Number

namespace Timestamp

def shownSecond (t : Timestamp) : Nat :=
  t.second % 60 + t.nano / nanosPerSecond

theorem fields_small (t : Timestamp) :
    t.date.month < 100 ∧ t.date.day < 100 ∧ t.second / 3600 < 100 ∧
      t.second / 60 % 60 < 100 ∧ t.shownSecond < 100 := by
  rcases t.date.isDate with ⟨_, _, _, hmonth, _, hday⟩
  have hdays := daysInMonth_le t.date.year t.date.month
  have hclock := t.isClock
  unfold IsClock nanosPerSecond at hclock
  unfold shownSecond nanosPerSecond
  omega

theorem of_eq_some {date : Date} {second nano : Nat} {t : Timestamp} (hdate : t.date = date)
    (hsecond : t.second = second) (hnano : t.nano = nano) :
    of? date second nano = some t := by
  subst hdate hsecond hnano
  exact dif_pos t.isClock

/-- A time lies within its second, or in the leap second behind the last of a minute. -/
theorem leap_cases (t : Timestamp) :
    t.nano / nanosPerSecond = 0 ∨ t.nano / nanosPerSecond = 1 ∧ t.second % 60 = 59 := by
  have hclock := t.isClock
  unfold IsClock nanosPerSecond at hclock
  unfold nanosPerSecond
  omega

theorem ofClock_shown (t : Timestamp) :
    ofClock? t.date (t.second / 3600) (t.second / 60 % 60) t.shownSecond
        (t.nano % nanosPerSecond) =
      some t := by
  have hday : t.second < 86400 := t.isClock.left
  have hdivision := Nat.div_add_mod t.nano nanosPerSecond
  have hinside : (decide (t.second / 3600 < 24) && decide (t.second / 60 % 60 < 60) &&
      decide (t.shownSecond <= 60) && decide (t.nano % nanosPerSecond < nanosPerSecond)) =
        true := by
    have hshown : t.shownSecond <= 60 := by
      rcases t.leap_cases with hwhole | ⟨hleap, hlast⟩
      · rw [shownSecond, hwhole]
        omega
      · rw [shownSecond, hleap, hlast]
    have hfraction : t.nano % nanosPerSecond < nanosPerSecond := Nat.mod_lt _ (by decide)
    simp only [Bool.and_eq_true, decide_eq_true_eq]
    omega
  rw [ofClock?, if_pos hinside]
  rcases t.leap_cases with hwhole | ⟨hleap, hlast⟩
  · have hshown : t.shownSecond = t.second % 60 := by
      rw [shownSecond, hwhole, Nat.add_zero]
    have hbelow : ¬ (t.second % 60 == 60) = true := by
      rw [beq_iff_eq]
      omega
    rw [hshown, if_neg hbelow]
    have hsecond : t.second =
        t.second / 3600 * 3600 + t.second / 60 % 60 * 60 + t.second % 60 := by
      omega
    have hnano : t.nano = t.nano % nanosPerSecond := by
      rw [hwhole] at hdivision
      omega
    exact of_eq_some rfl hsecond hnano
  · have hshown : t.shownSecond = 60 := by
      rw [shownSecond, hleap, hlast]
    have hsecond : t.second = t.second / 3600 * 3600 + t.second / 60 % 60 * 60 + 59 := by
      omega
    have hnano : t.nano = nanosPerSecond + t.nano % nanosPerSecond := by
      rw [hleap] at hdivision
      omega
    rw [hshown, if_pos (beq_self_eq_true 60)]
    exact of_eq_some rfl hsecond hnano

theorem head_yearText (year : Int) :
    exists c rest, (yearText year).toList = c :: rest ∧
      (c.isDigit = true ∧ 0 <= year ∧ year <= 9999 ∨ c = '-' ∨ c = '+') := by
  unfold yearText
  dsimp only
  split
  · exact ⟨'-', (padded 4 year.natAbs).toList, by simp, Or.inr (Or.inl rfl)⟩
  · split
    · exact ⟨'+', (padded 4 year.natAbs).toList, by simp, Or.inr (Or.inr rfl)⟩
    · cases hdigits : (padded 4 year.natAbs).toList with
      | nil =>
          exact absurd hdigits (padded_ne_nil 4 _)
      | cons c rest =>
          have hc := digits_padded 4 year.natAbs c (hdigits ▸ List.mem_cons_self)
          exact ⟨c, rest, rfl, Or.inl ⟨hc, by omega, by omega⟩⟩

end Timestamp

open Timestamp

/-!
## The names of months
-/

def monthTitles : List String :=
  ["January", "February", "March", "April", "May", "June", "July", "August", "September",
    "October", "November", "December"]

def monthTitle (month : Nat) : List Char :=
  (monthTitles.getD (month - 1) "").toList

def monthLetters (month : Nat) : List Char :=
  (monthTitle month).take 3

/-- Names by which the months are known, before a blank. -/
def NamesMonths (name : Nat -> List Char) : Prop :=
  forall month, 1 <= month -> month <= 12 -> forall rest,
    readMonthName? (name month ++ ' ' :: rest) = some (month, ' ' :: rest)

theorem namesMonths_title : NamesMonths monthTitle := by
  intro month hlow hhigh rest
  interval_cases month <;> rfl

theorem namesMonths_letters : NamesMonths monthLetters := by
  intro month hlow hhigh rest
  interval_cases month <;> rfl

/-!
## Digits behind a mask

Whether a pattern describes a text depends on where the digits of the text stand, and not on
which digits they are.  A pattern that does not describe a text with all digits turned into
zeros does not describe the text itself.
-/

def masked (c : Char) : Char :=
  if c.isDigit then '0' else c

/-- A text with zeros in place of its digits. -/
def mask (s : List Char) : List Char :=
  s.map masked

@[simp] theorem isDigit_masked (c : Char) : (masked c).isDigit = c.isDigit := by
  unfold masked
  split
  · rename_i h
    rw [h]
    rfl
  · rfl

@[simp] theorem isBlank_masked (c : Char) : isBlank (masked c) = isBlank c := by
  unfold masked
  split
  · rename_i h
    rw [isBlank_of_isDigit h]
    rfl
  · rfl

theorem masked_of_not_isDigit {c : Char} (h : c.isDigit = false) : masked c = c := by
  rw [masked, h]
  rfl

theorem masked_eq_iff {c mark : Char} (h : mark.isDigit = false) :
    masked c = mark <-> c = mark := by
  constructor
  · intro heq
    have hc : c.isDigit = false := by
      rw [← isDigit_masked, heq, h]
    rw [← heq, masked_of_not_isDigit hc]
  · intro h
    rcases h with rfl
    exact masked_of_not_isDigit h

theorem takeWhile_mask (s : List Char) :
    (mask s).takeWhile Char.isDigit = mask (s.takeWhile Char.isDigit) := by
  have hdigit : Char.isDigit ∘ masked = Char.isDigit := funext isDigit_masked
  rw [mask, List.takeWhile_map, hdigit]
  rfl

theorem trimStart_mask (s : List Char) : trimStart (mask s) = mask (trimStart s) := by
  have hblank : isBlank ∘ masked = isBlank := funext isBlank_masked
  rw [trimStart, mask, List.dropWhile_map, hblank]
  rfl

private theorem digits_takeWhile (s : List Char) : Digits (s.takeWhile Char.isDigit) :=
  fun _ hc => List.mem_takeWhile_imp hc

variable {s rest : List Char}

theorem readNumber_mask {most n : Nat} (h : readNumber? most s = some (n, rest)) :
    exists m, readNumber? most (mask s) = some (m, mask rest) := by
  rcases Option.map_eq_some_iff.mp h with ⟨value, hvalue, heq⟩
  cases heq
  have hread : ((mask s).take most).takeWhile Char.isDigit =
      mask ((s.take most).takeWhile Char.isDigit) := by
    rw [← takeWhile_mask, mask, mask, List.map_take]
  have hdigits : Digits (mask ((s.take most).takeWhile Char.isDigit)) := by
    rw [← takeWhile_mask]
    exact digits_takeWhile _
  have hne : mask ((s.take most).takeWhile Char.isDigit) ≠ [] := by
    intro hnil
    rw [mask, List.map_eq_nil_iff] at hnil
    rw [hnil] at hvalue
    cases hvalue
  refine ⟨Nat.ofDigitChars 10 (mask ((s.take most).takeWhile Char.isDigit)) 0, ?_⟩
  rw [readNumber?, hread, natural_eq hdigits hne, Option.map_some]
  rw [mask, mask, mask, List.length_map, List.map_drop]

theorem readField_mask {most n : Nat} (h : readField? most s = some (n, rest)) :
    exists m, readField? most (mask s) = some (m, mask rest) := by
  rw [readField?] at h
  rw [readField?, trimStart_mask]
  exact readNumber_mask h

theorem readYear_trimStart (s : List Char) : readYear? (trimStart s) = readYear? s := by
  have htwice : trimStart (trimStart s) = trimStart s := 
    List.dropWhile_idempotent isBlank s
  rw [readYear?, readYear?, htwice]

theorem readYear_cases {year : Int} (h : readYear? s = some (year, rest)) :
    (exists sign digits n, (sign = '-' ∨ sign = '+') ∧ trimStart s = sign :: digits ∧
        readNumber? digits.length digits = some (n, rest)) ∨
      exists n, readNumber? 4 (trimStart s) = some (n, rest) := by
  unfold readYear? at h
  split at h <;> rcases Option.map_eq_some_iff.mp h with ⟨⟨n, behind⟩, hread, heq⟩ <;> cases heq
  · rename_i digits htrim
    exact Or.inl ⟨'-', digits, n, Or.inl rfl, htrim, hread⟩
  · rename_i digits htrim
    exact Or.inl ⟨'+', digits, n, Or.inr rfl, htrim, hread⟩
  · exact Or.inr ⟨n, hread⟩

private theorem readYear_of_unsigned {n : Nat} (h : readNumber? 4 (trimStart s) = some (n, rest)) :
    readYear? s = some ((n : Int), rest) := by
  unfold readYear?
  split
  · rename_i htrim
    rw [htrim] at h
    cases h
  · rename_i htrim
    rw [htrim] at h
    cases h
  · rw [h]
    rfl

private theorem readYear_mask {year : Int} (h : readYear? s = some (year, rest)) :
    exists other, readYear? (mask s) = some (other, mask rest) := by
  rcases readYear_cases h with ⟨sign, digits, n, hsign, htrim, hread⟩ | ⟨n, hread⟩
  · rcases readNumber_mask hread with ⟨m, hm⟩
    have hlength : (mask digits).length = digits.length := List.length_map _
    rw [← hlength] at hm
    have hmask : trimStart (mask s) = sign :: mask digits := by
      rw [trimStart_mask, htrim]
      rcases hsign with rfl | rfl <;> rfl
    rcases hsign with rfl | rfl
    · exact ⟨-(m : Int), by rw [← readYear_trimStart, hmask, readYear_minus, hm]; rfl⟩
    · exact ⟨m, by rw [← readYear_trimStart, hmask, readYear_plus, hm]; rfl⟩
  · rcases readNumber_mask hread with ⟨m, hm⟩
    rw [← trimStart_mask] at hm
    exact ⟨m, readYear_of_unsigned hm⟩

/-- The elements for which the value of a digit does not matter. -/
def Element.isBlindToDigits : Element -> Bool
  | .fraction | .monthName => false
  | .mark c => !c.isDigit
  | _ => true

private theorem read_mask {element : Element} {parts other after : Parts}
    (hblind : element.isBlindToDigits = true) (h : element.read? parts s = some (after, rest)) :
    exists behind, element.read? other (mask s) = some (behind, mask rest) := by
  cases element with
  | fraction =>
      cases hblind
  | monthName =>
      cases hblind
  | blanks =>
      cases h
      exact ⟨other, by rw [Element.read?, trimStart_mask]⟩
  | mark c =>
      cases s with
      | nil =>
          cases h
      | cons first s =>
          rw [Element.read?] at h
          split at h
          · rename_i hfirst
            cases h
            have hc : c.isDigit = false := by simpa [Element.isBlindToDigits] using hblind
            have hmask : masked first = c := (masked_eq_iff hc).mpr (beq_iff_eq.mp hfirst)
            rw [← hmask]
            exact ⟨other, read_mark other (masked first) (mask rest)⟩
          · cases h
  | year =>
      rcases Option.map_eq_some_iff.mp h with ⟨⟨year, behind⟩, hread, heq⟩
      cases heq
      rcases readYear_mask hread with ⟨m, hm⟩
      exact ⟨_, by rw [Element.read?, hm]; rfl⟩
  | _ =>
      rcases Option.map_eq_some_iff.mp h with ⟨⟨n, behind⟩, hread, heq⟩
      cases heq
      rcases readField_mask hread with ⟨m, hm⟩
      exact ⟨_, by rw [Element.read?, hm]; rfl⟩

private theorem readElements_mask {pattern : List Element} {parts other after : Parts}
    (hblind : pattern.all Element.isBlindToDigits = true)
    (h : readElements? pattern parts s = some (after, rest)) :
    exists behind, readElements? pattern other (mask s) = some (behind, mask rest) := by
  induction pattern generalizing parts other s with
  | nil =>
      cases h
      exact ⟨other, rfl⟩
  | cons element elements ih =>
      rw [List.all_cons, Bool.and_eq_true] at hblind
      rw [readElements?] at h
      split at h
      · rename_i next middle hread
        rcases read_mask hblind.left hread with ⟨behind, hbehind⟩
        rw [readElements_cons hbehind]
        exact ih hblind.right h
      · cases h

/-- A pattern that does not describe the text behind its mask does not describe the text. -/
theorem readWhole_of_mask {pattern : List Element}
    (hblind : pattern.all Element.isBlindToDigits = true)
    (h : (readWhole? pattern (mask s)).isNone = true) :
    readWhole? pattern s = none := by
  rw [Option.eq_none_iff_forall_ne_some]
  intro parts hparts
  unfold readWhole? at hparts
  split at hparts
  · rename_i after hread
    rcases readElements_mask hblind hread with ⟨behind, hbehind⟩
    have hwhole : readWhole? pattern (mask s) = some behind := by
      rw [readWhole?, hbehind]
      rfl
    rw [hwhole] at h
    cases h
  · cases hparts

/-!
## Written texts

A pattern is also a way to write a time.  The text that it writes is read by it, provided that
nothing that stands behind a year, a blank or the name of a month is taken for a part of it.
-/

/-- What an element writes of a time; fractions are not written. -/
def Element.written (t : Timestamp) (name : Nat -> List Char) : Element -> List Char
  | .year => (yearText t.date.year).toList
  | .month => (padded 2 t.date.month).toList
  | .day => (padded 2 t.date.day).toList
  | .hour => (padded 2 (t.second / 3600)).toList
  | .minute => (padded 2 (t.second / 60 % 60)).toList
  | .second => (padded 2 t.shownSecond).toList
  | .fraction => []
  | .monthName => name t.date.month
  | .blanks => [' ']
  | .mark c => [c]

def written (t : Timestamp) (name : Nat -> List Char) (pattern : List Element) : List Char :=
  pattern.flatMap (Element.written t name)

theorem written_cons (t : Timestamp) (name : Nat -> List Char) (element : Element)
    (elements : List Element) :
    written t name (element :: elements) = element.written t name ++ written t name elements :=
  rfl

def Parts.noting (t : Timestamp) (parts : Parts) : Element -> Parts
  | .year => { parts with year := some t.date.year }
  | .month | .monthName => { parts with month := some t.date.month }
  | .day => { parts with day := some t.date.day }
  | .hour => { parts with hour := some (t.second / 3600) }
  | .minute => { parts with minute := some (t.second / 60 % 60) }
  | .second => { parts with second := t.shownSecond }
  | .fraction | .blanks | .mark _ => parts

def Element.endsBefore : Element -> List Element -> Bool
  | .year, [] => true
  | .year, .blanks :: _ => true
  | .year, .mark c :: _ => !c.isDigit
  | .year, _ => false
  | .blanks, .year :: _ => true
  | .blanks, next :: _ => numberFields.contains next
  | .blanks, [] => false
  | .monthName, .blanks :: _ => true
  | .monthName, _ => false
  | .fraction, _ => false
  | _, _ => true

def isSeparated : List Element -> Bool
  | [] => true
  | element :: elements => element.endsBefore elements && isSeparated elements

variable {t : Timestamp} {name : Nat -> List Char}

theorem trimStart_written_field {element : Element} (h : element ∈ numberFields)
    (rest : List Char) :
    trimStart (element.written t name ++ rest) = element.written t name ++ rest := by
  have hpadded : forall n, trimStart ((padded 2 n).toList ++ rest) = (padded 2 n).toList ++ rest :=
    fun n => trimStart_digits (digits_padded 2 n) (padded_ne_nil 2 n) rest
  simp only [numberFields, List.mem_cons, List.not_mem_nil, or_false] at h
  rcases h with rfl | rfl | rfl | rfl | rfl <;> exact hpadded _

private theorem trimStart_yearText (year : Int) (rest : List Char) :
    trimStart ((yearText year).toList ++ rest) = (yearText year).toList ++ rest := by
  rcases head_yearText year with ⟨c, behind, hyear, hc⟩
  have hblank : isBlank c = false := by
    rcases hc with ⟨hdigit, _⟩ | rfl | rfl
    · exact isBlank_of_isDigit hdigit
    · rfl
    · rfl
  rw [hyear, List.cons_append, trimStart, List.dropWhile_cons_of_neg]
  simp [hblank]

theorem read_written_year {elements : List Element} (h : Element.year.endsBefore elements = true)
    (parts : Parts) :
    Element.year.read? parts (Element.year.written t name ++ written t name elements) =
      some (parts.noting t .year, written t name elements) := by
  apply read_year
  cases elements with
  | nil =>
      intro c hc
      cases hc
  | cons next elements =>
      cases next with
      | blanks =>
          exact noDigitFirst_cons rfl _
      | mark c =>
          exact noDigitFirst_cons (by simpa [Element.endsBefore] using h) _
      | _ =>
          cases h

private theorem read_written_blanks {elements : List Element}
    (h : Element.blanks.endsBefore elements = true) (parts : Parts) :
    Element.blanks.read? parts (Element.blanks.written t name ++ written t name elements) =
      some (parts.noting t .blanks, written t name elements) := by
  have hstart : trimStart (written t name elements) = written t name elements := by
    cases elements with
    | nil =>
        rfl
    | cons next elements =>
        cases next with
        | year =>
            exact trimStart_yearText _ _
        | _ =>
            apply trimStart_written_field
            simpa [Element.endsBefore] using h
  exact read_blank parts hstart

private theorem read_written_monthName {elements : List Element} (hname : NamesMonths name)
    (h : Element.monthName.endsBefore elements = true) (parts : Parts) :
    Element.monthName.read? parts (Element.monthName.written t name ++ written t name elements) =
      some (parts.noting t .monthName, written t name elements) := by
  rcases t.date.isDate with ⟨_, _, hmonth, htwelve, _⟩
  cases elements with
  | nil =>
      cases h
  | cons next elements =>
      cases next with
      | blanks =>
          have hread := hname t.date.month hmonth htwelve (written t name elements)
          have hwritten : written t name (.blanks :: elements) = ' ' :: written t name elements :=
            rfl
          rw [hwritten, Element.written, Element.read?, hread]
          rfl
      | _ =>
          cases h

/-- What an element has written is read by it, and no more. -/
private theorem read_written {element : Element} {elements : List Element}
    (hname : NamesMonths name)
    (h : element.endsBefore elements = true) (parts : Parts) :
    element.read? parts (element.written t name ++ written t name elements) =
      some (parts.noting t element, written t name elements) := by
  rcases t.fields_small with ⟨hmonth, hday, hhour, hminute, hsecond⟩
  cases element with
  | year =>
      exact read_written_year h parts
  | month =>
      exact read_field (by decide) parts hmonth _
  | day =>
      exact read_field (by decide) parts hday _
  | hour =>
      exact read_field (by decide) parts hhour _
  | minute =>
      exact read_field (by decide) parts hminute _
  | second =>
      exact read_field (by decide) parts hsecond _
  | fraction =>
      cases h
  | monthName =>
      exact read_written_monthName hname h parts
  | blanks =>
      exact read_written_blanks h parts
  | mark c =>
      exact read_mark parts c _

private theorem readElements_written {pattern : List Element} (hname : NamesMonths name)
    (h : isSeparated pattern = true) (parts : Parts) :
    readElements? pattern parts (written t name pattern) =
      some (pattern.foldl (Parts.noting t) parts, []) := by
  induction pattern generalizing parts with
  | nil =>
      rfl
  | cons element elements ih =>
      rw [isSeparated, Bool.and_eq_true] at h
      rw [written_cons, readElements_cons (read_written hname h.left parts), List.foldl_cons]
      exact ih h.right _

theorem readWhole_written {pattern : List Element} (hname : NamesMonths name)
    (h : isSeparated pattern = true) :
    readWhole? pattern (written t name pattern) = some (pattern.foldl (Parts.noting t) {}) := by
  rw [readWhole?, readElements_written hname h]

/-!
## Masks of written texts
-/

/-- What is left of a written element behind a mask, in a year of four digits. -/
def Element.template : Element -> List Char
  | .year => ['0', '0', '0', '0']
  | .month | .day | .hour | .minute | .second => ['0', '0']
  | .fraction | .monthName => []
  | .blanks => [' ']
  | .mark c => [c]

private theorem mask_digits {digits : List Char} (h : Digits digits) :
    mask digits = List.replicate digits.length '0' := by
  rw [List.eq_replicate_iff]
  refine ⟨List.length_map _, ?_⟩
  intro c hc
  rcases List.mem_map.mp hc with ⟨d, hd, rfl⟩
  rw [masked, h d hd]
  rfl

theorem mask_padded {width n : Nat} (hwidth : 0 < width) (h : n < tenTo width) :
    mask (padded width n).toList = List.replicate width '0' := by
  rw [mask_digits (digits_padded width n), length_padded hwidth h]

/-- The years that are written with four digits and no sign. -/
def HasFourDigits (year : Int) : Prop :=
  0 <= year ∧ year <= 9999

theorem yearText_of_fourDigits {year : Int} (h : HasFourDigits year) :
    yearText year = padded 4 year.natAbs ∧ year.natAbs < tenTo 4 := by
  rcases h with ⟨hlow, hhigh⟩
  have hbound : tenTo 4 = 10000 := rfl
  refine ⟨?_, by omega⟩
  rw [yearText, if_neg (by omega), if_neg (by omega)]

theorem mask_written {pattern : List Element} (hyear : HasFourDigits t.date.year)
    (hblind : pattern.all Element.isBlindToDigits = true) :
    mask (written t name pattern) = pattern.flatMap Element.template := by
  rcases t.fields_small with ⟨hmonth, hday, hhour, hminute, hsecond⟩
  rcases yearText_of_fourDigits hyear with ⟨htext, hsmall⟩
  have htwo : forall n, n < 100 -> mask (padded 2 n).toList = ['0', '0'] :=
    fun n hn => mask_padded (by decide) hn
  induction pattern with
  | nil =>
      rfl
  | cons element elements ih =>
      rw [List.all_cons, Bool.and_eq_true] at hblind
      have helement : mask (element.written t name) = element.template := by
        cases element with
        | year =>
            rw [Element.written, htext, mask_padded (by decide) hsmall]
            rfl
        | month =>
            exact htwo _ hmonth
        | day =>
            exact htwo _ hday
        | hour =>
            exact htwo _ hhour
        | minute =>
            exact htwo _ hminute
        | second =>
            exact htwo _ hsecond
        | mark c =>
            have hc : c.isDigit = false := by
              simpa [Element.isBlindToDigits] using hblind.left
            rw [Element.written, mask, List.map_singleton, masked_of_not_isDigit hc]
            rfl
        | blanks =>
            rfl
        | _ =>
            cases hblind.left
      rw [written_cons, mask, List.map_append, List.flatMap_cons, ← helement, ← ih hblind.right]
      rfl

/-- No pattern of a list describes what a later one writes. -/
def Distinguished (patterns : List (List Element)) : Prop :=
  patterns.Pairwise fun earlier later =>
    (readWhole? earlier (later.flatMap Element.template)).isNone = true

end Time
end Audience
