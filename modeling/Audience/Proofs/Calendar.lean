import Mathlib.Algebra.BigOperators.Group.List.Basic
import Mathlib.Tactic.IntervalCases
import Audience.Time.Timestamp

/-!
# The count of days and seconds

## Days before a date

Days are counted from the first day of year 0: the days of the years before, the days of the
months before, and the days of the month before.  The day after a date has the next number,
across the ends of months and years.
-/

namespace Audience
namespace Time

def daysInYear (year : Int) : Int :=
  if isLeapYear year then 366 else 365

/-- Every fourth year from year 0 on has one day more, but not every hundredth, and again
every four hundredth. -/
def daysBeforeYear (year : Int) : Int :=
  365 * year + (year + 3) / 4 - (year + 99) / 100 + (year + 399) / 400

def daysBeforeMonth (year : Int) (month : Nat) : Nat :=
  ((List.range month).map (daysInMonth year)).sum

/-- The number of a day, where the first day of year 0 has number 0. -/
def Date.number (d : Date) : Int :=
  daysBeforeYear d.year + daysBeforeMonth d.year d.month + (d.day - 1)

theorem isLeapYear_iff (year : Int) :
    isLeapYear year = true <-> year % 4 = 0 ∧ (year % 100 ≠ 0 ∨ year % 400 = 0) := by
  simp [isLeapYear]

theorem daysBeforeYear_succ (year : Int) :
    daysBeforeYear (year + 1) = daysBeforeYear year + daysInYear year := by
  have hleap := isLeapYear_iff year
  unfold daysInYear daysBeforeYear
  split
  · rename_i h
    have hyear := hleap.mp h
    omega
  · rename_i h
    have hyear := (not_congr hleap).mp h
    omega

theorem daysBeforeMonth_succ (year : Int) (month : Nat) :
    daysBeforeMonth year (month + 1) = daysBeforeMonth year month + daysInMonth year month := by
  simp [daysBeforeMonth, List.range_succ]

theorem daysBeforeMonth_twelve (year : Int) :
    daysBeforeMonth year 12 + 31 = daysInYear year := by
  unfold daysInYear
  cases h : isLeapYear year <;> simp [daysBeforeMonth, List.range_succ, daysInMonth, h]

theorem daysInMonth_le (year : Int) (month : Nat) : daysInMonth year month <= 31 := by
  unfold daysInMonth
  split <;> try split
  all_goals omega

theorem daysInMonth_pos {month : Nat} (year : Int) (hlow : 1 <= month) (hhigh : month <= 12) :
    1 <= daysInMonth year month := by
  interval_cases month <;> simp only [daysInMonth] <;> (try split) <;> omega

theorem Date.of_eq_some {year : Int} {month day : Nat} {d : Date}
    (h : Date.of? year month day = some d) :
    d.year = year ∧ d.month = month ∧ d.day = day := by
  unfold Date.of? at h
  split at h
  · cases h
    exact ⟨rfl, rfl, rfl⟩
  · cases h

theorem Date.number_of {year : Int} {month day : Nat} {d : Date}
    (h : Date.of? year month day = some d) :
    d.number = daysBeforeYear year + daysBeforeMonth year month + (day - 1) := by
  rcases of_eq_some h with ⟨rfl, rfl, rfl⟩
  rfl

theorem daysBeforeMonth_one (year : Int) : daysBeforeMonth year 1 = 0 := by
  simp [daysBeforeMonth, daysInMonth]

theorem Date.number_next {d e : Date} (h : d.next? = some e) : e.number = d.number + 1 := by
  rcases d with ⟨year, month, day, hdate⟩
  rcases hdate with ⟨_, _, hmonth, htwelve, hday, hlast⟩
  unfold next? at h
  dsimp only at h
  split at h
  case isTrue hinside =>
    rw [number_of h, number]
    dsimp only
    omega
  case isFalse hend =>
    have hfull : day = daysInMonth year month := by omega
    split at h
    case isTrue hmonths =>
      have hmonths := daysBeforeMonth_succ year month
      rw [number_of h, number]
      dsimp only
      omega
    case isFalse hyearEnd =>
      have hdecember : month = 12 := by omega
      subst hdecember
      have hyear := daysBeforeYear_succ year
      have hmonths := daysBeforeMonth_twelve year
      have hdecember : daysInMonth year 12 = 31 := rfl
      rw [number_of h, number, daysBeforeMonth_one]
      dsimp only
      omega

theorem Date.number_previous {d e : Date} (h : d.previous? = some e) :
    e.number = d.number - 1 := by
  rcases d with ⟨year, month, day, hdate⟩
  rcases hdate with ⟨_, _, hmonth, htwelve, hday, hlast⟩
  unfold previous? at h
  dsimp only at h
  split at h
  case isTrue hinside =>
    rw [number_of h, number]
    dsimp only
    omega
  case isFalse hstart =>
    split at h
    case isTrue hmonths =>
      have hsucc := daysBeforeMonth_succ year (month - 1)
      have hpos : 1 <= daysInMonth year (month - 1) :=
        daysInMonth_pos year (by omega) (by omega)
      rw [Nat.sub_add_cancel hmonth] at hsucc
      rw [number_of h, number]
      dsimp only
      omega
    case isFalse hyearStart =>
      have hjanuary : month = 1 := by omega
      subst hjanuary
      have hyear := daysBeforeYear_succ (year - 1)
      have hmonths := daysBeforeMonth_twelve (year - 1)
      rw [sub_add_cancel] at hyear
      rw [number_of h, number, daysBeforeMonth_one]
      dsimp only
      omega

/-!
## No two dates have the same number
-/

theorem daysBeforeYear_le {year later : Int} (h : year <= later) :
    daysBeforeYear year <= daysBeforeYear later := by
  unfold daysBeforeYear
  omega

theorem daysBeforeMonth_le (year : Int) {month later : Nat} (h : month <= later) :
    daysBeforeMonth year month <= daysBeforeMonth year later := by
  induction later, h using Nat.le_induction with
  | base =>
      exact Nat.le_refl _
  | succ later _ ih =>
      rw [daysBeforeMonth_succ]
      omega

theorem Date.dayOfYear_bounds (d : Date) :
    1 <= d.day ∧ daysBeforeMonth d.year d.month + d.day <= daysBeforeMonth d.year (d.month + 1) ∧
      (daysBeforeMonth d.year d.month + d.day : Int) <= daysInYear d.year := by
  rcases d.isDate with ⟨_, _, _, htwelve, hday, hlast⟩
  have hsucc := daysBeforeMonth_succ d.year d.month
  have hyear := daysBeforeMonth_twelve d.year
  have hdecember := daysBeforeMonth_succ d.year 12
  have hmonths : daysBeforeMonth d.year (d.month + 1) <= daysBeforeMonth d.year (12 + 1) :=
    daysBeforeMonth_le d.year (by omega)
  have hthirtyOne : daysInMonth d.year 12 = 31 := rfl
  omega

theorem Date.year_of_number_le {d e : Date} (h : d.number <= e.number) : d.year <= e.year := by
  rcases d.dayOfYear_bounds with ⟨hday, _, _⟩
  rcases e.dayOfYear_bounds with ⟨_, _, hlast⟩
  have hsucc := daysBeforeYear_succ e.year
  by_contra hlater
  have hyears : daysBeforeYear (e.year + 1) <= daysBeforeYear d.year :=
    daysBeforeYear_le (by omega)
  unfold number at h
  omega

theorem Date.month_of_number_le {d e : Date} (hyear : d.year = e.year)
    (h : d.number <= e.number) : d.month <= e.month := by
  rcases d.dayOfYear_bounds with ⟨hday, _, _⟩
  rcases e.dayOfYear_bounds with ⟨_, hlast, _⟩
  by_contra hlater
  have hmonths : daysBeforeMonth e.year (e.month + 1) <= daysBeforeMonth e.year d.month :=
    daysBeforeMonth_le e.year (by omega)
  unfold number at h
  rw [hyear] at h
  omega

theorem Date.eq_of_parts {d e : Date} (hyear : d.year = e.year) (hmonth : d.month = e.month)
    (hday : d.day = e.day) : d = e := by
  cases d
  cases e
  cases hyear
  cases hmonth
  cases hday
  rfl

private theorem Date.eq_of_number {d e : Date} (h : d.number = e.number) : d = e := by
  have hyear : d.year = e.year :=
    le_antisymm (year_of_number_le h.le) (year_of_number_le h.ge)
  have hmonth : d.month = e.month :=
    le_antisymm (month_of_number_le hyear h.le) (month_of_number_le hyear.symm h.ge)
  apply eq_of_parts hyear hmonth
  rcases d.dayOfYear_bounds with ⟨hfirst, _, _⟩
  rcases e.dayOfYear_bounds with ⟨hother, _, _⟩
  unfold number at h
  rw [hyear, hmonth] at h
  omega

/-!
## Seconds

A second of universal time is found from a clock with an offset by counting back the offset,
which may lead to the day before or to the day after.
-/

namespace Timestamp

/-- The seconds since the first day of year 0 began.  A leap second is counted with the second
before it, and told by the nanoseconds. -/
def seconds (t : Timestamp) : Int :=
  t.date.number * 86400 + t.second

theorem eq_of_seconds {s t : Timestamp} (hseconds : s.seconds = t.seconds)
    (hnano : s.nano = t.nano) : s = t := by
  have hs : s.second < 86400 := s.isClock.left
  have ht : t.second < 86400 := t.isClock.left
  unfold seconds at hseconds
  have hdate : s.date = t.date := Date.eq_of_number (by omega)
  have hsecond : s.second = t.second := by
    rw [hdate] at hseconds
    omega
  cases s
  cases t
  cases hdate
  cases hsecond
  cases hnano
  rfl

private theorem parts_of_of {date : Date} {second nano : Nat} {t : Timestamp}
    (h : of? date second nano = some t) :
    t.date = date ∧ t.second = second ∧ t.nano = nano := by
  unfold of? at h
  split at h
  · cases h
    exact ⟨rfl, rfl, rfl⟩
  · cases h

theorem seconds_of_behind {t u : Timestamp} {offset : Int} (hday : offset < 86400)
    (h : t.behind? offset = some u) :
    u.seconds = t.seconds - offset ∧ u.nano = t.nano := by
  unfold behind? at h
  dsimp only at h
  split at h
  case isTrue hbefore =>
    rcases Option.bind_eq_some_iff.mp h with ⟨date, hdate, h⟩
    have hnumber := Date.number_previous hdate
    rcases parts_of_of h with ⟨rfl, hsecond, hnano⟩
    have hclock : u.second < 86400 := u.isClock.left
    refine ⟨?_, hnano⟩
    unfold seconds
    omega
  case isFalse hfrom =>
    split at h
    case isTrue hsame =>
      rcases parts_of_of h with ⟨hdate, hsecond, hnano⟩
      refine ⟨?_, hnano⟩
      unfold seconds
      rw [hdate]
      omega
    case isFalse hafter =>
      rcases Option.bind_eq_some_iff.mp h with ⟨date, hdate, h⟩
      have hnumber := Date.number_next hdate
      rcases parts_of_of h with ⟨rfl, hsecond, hnano⟩
      refine ⟨?_, hnano⟩
      unfold seconds
      omega

end Timestamp

theorem Date.exists_of {year : Int} {month day : Nat} (h : IsDate year month day) :
    exists d, Date.of? year month day = some d :=
  ⟨_, dif_pos h⟩

private theorem Date.exists_next {d : Date} (h : d.year < lastYear) :
    exists e, d.next? = some e := by
  rcases d.isDate with ⟨hlow, _, hmonth, htwelve, hday, hlast⟩
  unfold next?
  split
  · exact exists_of ⟨hlow, h.le, hmonth, htwelve, by omega, by omega⟩
  · split
    · exact exists_of ⟨hlow, h.le, by omega, by omega, le_rfl,
        daysInMonth_pos _ (by omega) (by omega)⟩
    · exact exists_of ⟨by omega, by omega, le_rfl, by decide, le_rfl,
        daysInMonth_pos _ (by decide) (by decide)⟩

private theorem Date.exists_previous {d : Date} (h : firstYear < d.year) :
    exists e, d.previous? = some e := by
  rcases d.isDate with ⟨_, hhigh, hmonth, htwelve, hday, hlast⟩
  unfold previous?
  split
  · exact exists_of ⟨h.le, hhigh, hmonth, htwelve, by omega, by omega⟩
  · split
    · exact exists_of ⟨h.le, hhigh, by omega, by omega,
        daysInMonth_pos _ (by omega) (by omega), le_rfl⟩
    · exact exists_of ⟨by omega, by omega, by decide, by decide, by decide, le_rfl⟩

/-- Within the years of the calendar a clock may be behind or ahead by whole minutes, for less
than a day. -/
theorem Timestamp.exists_behind {t : Timestamp} {offset : Int} (hfirst : firstYear < t.date.year)
    (hlast : t.date.year < lastYear) (hminutes : offset % 60 = 0) (hlow : -86400 < offset)
    (hhigh : offset < 86400) :
    exists u, t.behind? offset = some u := by
  have hclock := t.isClock
  have hof : forall (date : Date) (second : Nat), second < 86400 ->
      second % 60 = t.second % 60 -> exists u, of? date second t.nano = some u := by
    intro date second hsecond hsame
    unfold IsClock at hclock
    exact ⟨_, dif_pos ⟨hsecond, by omega⟩⟩
  have hday : t.second < 86400 := hclock.left
  unfold behind?
  dsimp only
  split
  · rcases Date.exists_previous hfirst with ⟨date, hdate⟩
    rw [hdate, Option.bind_some]
    exact hof date _ (by omega) (by omega)
  · split
    · exact hof _ _ (by omega) (by omega)
    · rcases Date.exists_next hlast with ⟨date, hdate⟩
      rw [hdate, Option.bind_some]
      exact hof date _ (by omega) (by omega)

/-!
## Order

Instants are ordered by the numbers of their days, the seconds and the nanoseconds, although
they are compared as if all months had 31 days.
-/

/-- The place of a date in a calendar in which every month has 31 days. -/
def Date.place (d : Date) : Int :=
  (d.year * 12 + (d.month - 1)) * 31 + (d.day - 1)

theorem Date.place_le_of_number_le {d e : Date} (h : d.number <= e.number) :
    d.place <= e.place := by
  rcases d.isDate with ⟨_, _, hmonth, htwelve, hday, hlast⟩
  rcases e.isDate with ⟨_, _, hmonth', htwelve', hday', _⟩
  have hthirtyOne := daysInMonth_le d.year d.month
  have hyear := year_of_number_le h
  unfold place
  rcases hyear.lt_or_eq with hearlier | hsame
  · omega
  · have hmonths := month_of_number_le hsame h
    rcases hmonths.lt_or_eq with hbefore | hwithin
    · omega
    · unfold number at h
      rw [hsame, hwithin] at h
      omega

private theorem Date.eq_of_place {d e : Date} (h : d.place = e.place) : d = e := by
  rcases d.isDate with ⟨_, _, hmonth, htwelve, hday, hlast⟩
  rcases e.isDate with ⟨_, _, hmonth', htwelve', hday', hlast'⟩
  have hthirtyOne := daysInMonth_le d.year d.month
  have hthirtyOne' := daysInMonth_le e.year e.month
  unfold place at h
  apply eq_of_parts <;> omega

theorem Date.number_le_iff {d e : Date} : d.number <= e.number <-> d.place <= e.place := by
  constructor
  · exact place_le_of_number_le
  · intro hplace
    by_contra hlater
    have hearlier : e.number < d.number := not_le.mp hlater
    have hsame := eq_of_place (le_antisymm hplace (place_le_of_number_le hearlier.le))
    exact hlater (congrArg number hsame).le

namespace Timestamp

def NotAfter (s t : Timestamp) : Prop :=
  s.seconds < t.seconds ∨ s.seconds = t.seconds ∧ s.nano <= t.nano

theorem le_iff {s t : Timestamp} : s.le t = true <-> s.NotAfter t := by
  have hs := s.isClock
  have ht := t.isClock
  have hdates := Date.number_le_iff (d := s.date) (e := t.date)
  have hturned := Date.number_le_iff (d := t.date) (e := s.date)
  have hordinal : forall u : Timestamp, u.ordinal =
      (u.date.place * 86400 + u.second) * (2 * nanosPerSecond) + u.nano := fun u => rfl
  unfold IsClock nanosPerSecond at hs ht
  rw [le, decide_eq_true_eq, hordinal, hordinal, NotAfter, seconds, seconds, nanosPerSecond]
  omega

def Before (s t : Timestamp) : Prop :=
  s.seconds < t.seconds ∨ s.seconds = t.seconds ∧ s.nano < t.nano

theorem lt_iff {s t : Timestamp} : s.lt t = true <-> s.Before t := by
  have hturned : s.lt t = true <-> ¬ t.le s = true := by
    rw [lt, le, decide_eq_true_eq, decide_eq_true_eq, not_le]
  rw [hturned, le_iff, NotAfter, Before]
  omega

end Timestamp

end Time
end Audience
