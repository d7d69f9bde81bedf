import Audience.Proofs.DateSpellings
import Audience.Proofs.Usable

/-!
# Dates as they are entered

## The internet form

The internet form is tried first.  All its numbers have their full width, so each is read as it
has been written.
-/

namespace Audience
namespace Time

open Text Number Timestamp

variable {t : Timestamp} {name : Nat -> List Char}

theorem bind_of {α β : Type} {first : Option α} {value : α} (h : first = some value)
    (next : α -> Option β) : (first >>= next) = next value := by
  rw [h]
  rfl

theorem readExactly_padded {width n : Nat} (hwidth : 0 < width) (h : n < tenTo width)
    (rest : List Char) :
    readExactly? width ((padded width n).toList ++ rest) = some (n, rest) := by
  have hlength := length_padded hwidth h
  have htake : ((padded width n).toList ++ rest).take width = (padded width n).toList :=
    List.take_left' hlength
  have hdrop : ((padded width n).toList ++ rest).drop width = rest := List.drop_left' hlength
  rw [readExactly?, htake, hdrop, hlength, if_pos (beq_self_eq_true width), natural_padded]
  rfl

@[simp] theorem readMark_cons (c : Char) (rest : List Char) :
    readMark? c (c :: rest) = some rest := by
  rw [readMark?, if_pos (beq_self_eq_true c)]

private theorem readOffset_signed {sign : Char} (hsign : sign = '+' ∨ sign = '-')
    (offset : Offset) :
    readOffset? (sign :: offset.text.toList) =
      some (if sign == '+' then offset.seconds else -offset.seconds, []) := by
  have hhours : offset.hours < tenTo 2 := offset.hours_lt.trans (by decide)
  have hminutes : offset.minutes < tenTo 2 := offset.minutes_lt.trans (by decide)
  have htext : offset.text.toList =
      (padded 2 offset.hours).toList ++ ':' :: ((padded 2 offset.minutes).toList ++ []) := by
    simp [Offset.text]
  have hinside : (decide (offset.hours < 24) && decide (offset.minutes < 60)) = true := by
    rw [Bool.and_eq_true, decide_eq_true_eq, decide_eq_true_eq]
    exact ⟨offset.hours_lt, offset.minutes_lt⟩
  have hletter : ¬ (sign == 'Z' || sign == 'z') = true := by
    rcases hsign with rfl | rfl <;> decide
  have hmark : (sign == '+' || sign == '-' || sign == '\u2212') = true := by
    rcases hsign with rfl | rfl <;> decide
  rw [htext, readOffset?, if_neg hletter, if_pos hmark]
  refine (bind_of (readExactly_padded (by decide) hhours _) _).trans ?_
  refine (bind_of (readMark_cons _ _) _).trans ?_
  refine (bind_of (readExactly_padded (by decide) hminutes _) _).trans ?_
  dsimp only
  rw [if_pos hinside]
  rfl

theorem readOffset_text (zone : Zone) :
    readOffset? zone.text.toList = some (zone.seconds, []) := by
  cases zone with
  | universal capital =>
      cases capital <;> rfl
  | ahead offset =>
      rw [Zone.text, String.toList_append]
      exact readOffset_signed (Or.inl rfl) offset
  | behind offset =>
      rw [Zone.text, String.toList_append]
      exact readOffset_signed (Or.inr rfl) offset

theorem zone_begins (zone : Zone) :
    exists c rest, zone.text.toList = c :: rest ∧ c.isDigit = false ∧ c ≠ '.' := by
  cases zone with
  | universal capital =>
      cases capital <;> exact ⟨_, [], rfl, by decide, by decide⟩
  | ahead offset =>
      exact ⟨'+', offset.text.toList, by simp [Zone.text], by decide, by decide⟩
  | behind offset =>
      exact ⟨'-', offset.text.toList, by simp [Zone.text], by decide, by decide⟩

private theorem readNanos_padded {width n : Nat} {rest : List Char} (hwidth : 0 < width)
    (hnine : width <= 9) (h : n < tenTo width) (hrest : NoDigitFirst rest) :
    readNanos? ((padded width n).toList ++ rest) = some (n * tenTo (9 - width), rest) := by
  have hlength := length_padded hwidth h
  have hdigits := digits_padded width n
  have hread : (((padded width n).toList ++ rest).take 9).takeWhile Char.isDigit =
      (padded width n).toList := by
    rw [List.take_append, List.take_of_length_le (hlength.trans_le hnine),
      List.takeWhile_append_of_pos hdigits, takeWhile_noDigitFirst hrest, List.append_nil]
  have hdrop : ((padded width n).toList ++ rest).dropWhile Char.isDigit = rest := by
    rw [List.dropWhile_append_of_pos hdigits]
    cases rest with
    | nil =>
        rfl
    | cons c rest =>
        rw [List.dropWhile_cons_of_neg]
        simp [hrest c rfl]
  rw [readNanos?, hread, hdrop, hlength, natural_padded]
  rfl

private theorem readFraction_text {style : InternetStyle} {c : Char} {rest : List Char}
    (hall : style.unit ∣ t.nano % nanosPerSecond) (hdigit : c.isDigit = false)
    (hpoint : c ≠ '.') :
    readFraction? ((style.fractionText t).toList ++ c :: rest) =
      some (t.nano % nanosPerSecond, c :: rest) := by
  have hbelow : t.nano % nanosPerSecond < nanosPerSecond := Nat.mod_lt _ (by decide)
  have hunits : style.unit * tenTo style.decimals = nanosPerSecond := by
    have hnine : 9 - style.decimals + style.decimals = 9 := Nat.sub_add_cancel style.decimals_le
    rw [InternetStyle.unit, tenTo, tenTo, Nat.pow_eq, Nat.pow_eq, ← pow_add, hnine]
    rfl
  unfold InternetStyle.fractionText
  split
  case isTrue hnone =>
    have hzero : t.nano % nanosPerSecond = 0 := by
      rw [hnone] at hunits
      exact Nat.eq_zero_of_dvd_of_lt hall (hbelow.trans_eq (hunits.symm.trans (Nat.mul_one _)))
    rw [hzero, readFraction?]
    · rfl
    · intro digits heq
      cases heq
      exact hpoint rfl
  case isFalse hsome =>
    have hdigits : t.nano % nanosPerSecond / style.unit < tenTo style.decimals :=
      Nat.div_lt_of_lt_mul (hbelow.trans_eq hunits.symm)
    have htext : ("." ++ padded style.decimals (t.nano % nanosPerSecond / style.unit)).toList ++
        c :: rest = '.' :: ((padded style.decimals
          (t.nano % nanosPerSecond / style.unit)).toList ++ c :: rest) := by
      simp
    have hnanos := readNanos_padded (Nat.pos_of_ne_zero hsome) style.decimals_le hdigits
      (noDigitFirst_cons hdigit rest)
    have hproduct : t.nano % nanosPerSecond / style.unit * tenTo (9 - style.decimals) =
        t.nano % nanosPerSecond := Nat.div_mul_cancel hall
    rw [htext, readFraction?, hnanos, hproduct]

theorem readInternet_text (style : InternetStyle) (hyear : HasFourDigits t.date.year)
    (hall : style.unit ∣ t.nano % nanosPerSecond) :
    readInternet? (style.text t).toList = t.behind? style.zone.seconds := by
  rcases t.fields_small with ⟨hmonth, hday, hhour, hminute, hsecond⟩
  rcases yearText_of_fourDigits hyear with ⟨hyearText, hsmall⟩
  have htext : (style.text t).toList =
      (padded 4 t.date.year.natAbs).toList ++ '-' :: ((padded 2 t.date.month).toList ++
        '-' :: ((padded 2 t.date.day).toList ++ style.separator.mark ::
          ((padded 2 (t.second / 3600)).toList ++
            ':' :: ((padded 2 (t.second / 60 % 60)).toList ++
              ':' :: ((padded 2 t.shownSecond).toList ++ ((style.fractionText t).toList ++
                style.zone.text.toList)))))) := by
    simp [InternetStyle.text, dateText, clockText, hyearText, shownSecond]
  have hdate : Date.of? (t.date.year.natAbs : Int) t.date.month t.date.day = some t.date := by
    rw [Int.natAbs_of_nonneg hyear.left]
    exact dif_pos t.date.isDate
  have hfraction : readFraction? ((style.fractionText t).toList ++ style.zone.text.toList) =
      some (t.nano % nanosPerSecond, style.zone.text.toList) := by
    rcases zone_begins style.zone with ⟨c, rest, hzone, hdigit, hpoint⟩
    rw [hzone]
    exact readFraction_text hall hdigit hpoint
  have hmark : (style.separator.mark == 'T' || style.separator.mark == 't' ||
      style.separator.mark == ' ') = true := by
    cases style.separator <;> rfl
  rw [htext, readInternet?]
  refine (bind_of (readExactly_padded (by decide) hsmall _) _).trans ?_
  refine (bind_of (readMark_cons _ _) _).trans ?_
  refine (bind_of (readExactly_padded (by decide) hmonth _) _).trans ?_
  refine (bind_of (readMark_cons _ _) _).trans ?_
  refine (bind_of (readExactly_padded (by decide) hday _) _).trans ?_
  dsimp only
  rw [if_pos hmark]
  refine (bind_of rfl _).trans ?_
  refine (bind_of (readExactly_padded (by decide) hhour _) _).trans ?_
  refine (bind_of (readMark_cons _ _) _).trans ?_
  refine (bind_of (readExactly_padded (by decide) hminute _) _).trans ?_
  refine (bind_of (readMark_cons _ _) _).trans ?_
  refine (bind_of (readExactly_padded (by decide) hsecond _) _).trans ?_
  refine (bind_of hfraction _).trans ?_
  refine (bind_of (readOffset_text _) _).trans ?_
  refine (bind_of hdate _).trans ?_
  exact bind_of (ofClock_shown t) _

/-!
## Blanks around an entry

Every spelling begins and ends with something other than a blank, so the blanks around it are
all that is cut off.
-/

def BeginsBare (s : List Char) : Prop :=
  exists c, s.head? = some c ∧ isBlank c = false

def EndsBare (s : List Char) : Prop :=
  exists c, s.getLast? = some c ∧ isBlank c = false

theorem beginsBare_append {s : List Char} (h : BeginsBare s) (rest : List Char) :
    BeginsBare (s ++ rest) := by
  rcases h with ⟨c, hc, hbare⟩
  exact ⟨c, by rw [List.head?_append, hc]; rfl, hbare⟩

theorem endsBare_append {s : List Char} (h : EndsBare s) (front : List Char) :
    EndsBare (front ++ s) := by
  rcases h with ⟨c, hc, hbare⟩
  exact ⟨c, by rw [List.getLast?_append, hc]; rfl, hbare⟩

theorem beginsBare_digits {s : List Char} (h : Digits s) (hne : s ≠ []) : BeginsBare s :=
  ⟨s.head hne, List.head?_eq_some_head hne, isBlank_of_isDigit (h _ (List.head_mem hne))⟩

theorem endsBare_digits {s : List Char} (h : Digits s) (hne : s ≠ []) : EndsBare s :=
  ⟨s.getLast hne, List.getLast?_eq_some_getLast hne,
    isBlank_of_isDigit (h _ (List.getLast_mem hne))⟩

private theorem dropWhile_blanks {blanks s : List Char} (hblanks : blanks.all isBlank = true)
    (h : BeginsBare s) : (blanks ++ s).dropWhile isBlank = s := by
  rcases h with ⟨c, hc, hbare⟩
  rw [List.dropWhile_append_of_pos (List.all_eq_true.mp hblanks), List.eq_cons_of_mem_head? hc,
    List.dropWhile_cons_of_neg]
  simp [hbare]

theorem trim_around {before s after : List Char} (hbefore : before.all isBlank = true)
    (hafter : after.all isBlank = true) (hbegins : BeginsBare s) (hends : EndsBare s) :
    trim (before ++ s ++ after) = s := by
  have hreversed : after.reverse.all isBlank = true := by
    rw [List.all_reverse, hafter]
  have hlast : BeginsBare s.reverse := by
    rw [BeginsBare, List.head?_reverse]
    exact hends
  rw [trim, trimStart, List.append_assoc, dropWhile_blanks hbefore (beginsBare_append hbegins _),
    trimEnd, List.reverse_append, dropWhile_blanks hreversed hlast, List.reverse_reverse]

def numberElements : List Element :=
  .year :: numberFields

theorem bare_number {element : Element} (hyear : HasFourDigits t.date.year)
    (h : element ∈ numberElements) :
    BeginsBare (element.written t name) ∧ EndsBare (element.written t name) := by
  have hpadded : forall width n,
      BeginsBare (padded width n).toList ∧ EndsBare (padded width n).toList := by
    intro width n
    exact ⟨beginsBare_digits (digits_padded width n) (padded_ne_nil width n),
      endsBare_digits (digits_padded width n) (padded_ne_nil width n)⟩
  simp only [numberElements, numberFields, List.mem_cons, List.not_mem_nil, or_false] at h
  rcases h with rfl | rfl | rfl | rfl | rfl | rfl
  · rw [Element.written, (yearText_of_fourDigits hyear).left]
    exact hpadded _ _
  all_goals exact hpadded _ _

theorem endsBare_written {pattern : List Element} {element : Element}
    (hlast : pattern.getLast? = some element) (h : EndsBare (element.written t name)) :
    EndsBare (written t name pattern) := by
  have hsplit : pattern = pattern.dropLast ++ [element] :=
    (List.dropLast_append_getLast? element hlast).symm
  rw [hsplit, written, List.flatMap_append, List.flatMap_singleton]
  exact endsBare_append h _

theorem bare_numbered {pattern : List Element} (hyear : HasFourDigits t.date.year)
    (hpattern : pattern ∈ numbered) :
    BeginsBare (written t name pattern) ∧ EndsBare (written t name pattern) := by
  have hnumbers : forall pattern, pattern ∈ numbered ->
      (exists element, element ∈ numberElements ∧ pattern.head? = some element) ∧
        exists element, element ∈ numberElements ∧ pattern.getLast? = some element := by
    decide
  rcases hnumbers pattern hpattern with ⟨⟨first, hfirst, hhead⟩, last, hlast, hend⟩
  constructor
  · rw [List.eq_cons_of_mem_head? hhead, written_cons]
    exact beginsBare_append (bare_number hyear hfirst).left _
  · exact endsBare_written hend (bare_number hyear hlast).right

private theorem bare_namedDay (hyear : HasFourDigits t.date.year)
    (hletter : exists c rest, name t.date.month = c :: rest ∧ IsNoNumber c) :
    BeginsBare (written t name namedDay) ∧ EndsBare (written t name namedDay) := by
  rcases hletter with ⟨c, rest, hmonth, hc⟩
  constructor
  · rw [namedDay, written_cons, Element.written, hmonth]
    exact ⟨c, rfl, hc.right.left⟩
  · exact endsBare_written rfl (bare_number hyear (by decide)).right

private theorem endsBare_zone (zone : Zone) : EndsBare zone.text.toList := by
  have hoffset : forall offset : Offset, EndsBare offset.text.toList := by
    intro offset
    rw [Offset.text, String.toList_append]
    exact endsBare_append
      (endsBare_digits (digits_padded _ _) (padded_ne_nil _ _)) _
  cases zone with
  | universal capital =>
      cases capital <;> exact ⟨_, rfl, by decide⟩
  | ahead offset =>
      rw [Zone.text, String.toList_append]
      exact endsBare_append (hoffset offset) _
  | behind offset =>
      rw [Zone.text, String.toList_append]
      exact endsBare_append (hoffset offset) _

theorem Spelling.bare_text (spelling : Spelling) (hyear : HasFourDigits t.date.year) :
    BeginsBare (spelling.text t).toList ∧ EndsBare (spelling.text t).toList := by
  cases spelling with
  | dateTime style =>
      rw [text, DateTimeStyle.toList_text]
      exact bare_numbered hyear (List.mem_append_left _ style.pattern_mem)
  | day style =>
      rw [text, DayStyle.toList_text]
      rcases style.pattern_cases with hnumbered | hnamed
      · exact bare_numbered hyear (List.mem_append_right _ hnumbered)
      · rw [hnamed]
        exact bare_namedDay hyear (style.names_begin t)
  | internet style =>
      constructor
      · have hbegin : BeginsBare t.dateText.toList :=
          (DayStyle.hyphens.toList_text (t := t)) ▸
            (bare_numbered hyear (List.mem_append_right _ (by decide))).left
        simp only [text, InternetStyle.text, String.toList_append, List.append_assoc]
        exact beginsBare_append hbegin _
      · rw [text, InternetStyle.text, String.toList_append]
        exact endsBare_append (endsBare_zone style.zone) _

/-!
## Instants
-/

private theorem Zone.seconds_bounds (zone : Zone) :
    zone.seconds % 60 = 0 ∧ -86400 < zone.seconds ∧ zone.seconds < 86400 := by
  have hoffset : forall offset : Offset,
      offset.seconds % 60 = 0 ∧ 0 <= offset.seconds ∧ offset.seconds < 86400 := by
    intro offset
    have hhours := offset.hours_lt
    have hminutes := offset.minutes_lt
    unfold Offset.seconds
    omega
  cases zone with
  | universal capital =>
      simp [seconds]
  | ahead offset =>
      have hbounds := hoffset offset
      dsimp only [seconds]
      omega
  | behind offset =>
      have hbounds := hoffset offset
      dsimp only [seconds]
      omega

/-- No spelling is taken by a pattern that is tried before its own. -/
private theorem Spelling.readEntered_text (spelling : Spelling) (hyear : HasFourDigits t.date.year)
    (hshows : spelling.ShowsAll t) :
    exists u, readEntered? (spelling.text t).toList = some u ∧
      u.seconds = t.seconds - spelling.ahead ∧ u.nano = t.nano := by
  cases spelling with
  | dateTime style =>
      exact ⟨t, style.readEntered_text hyear hshows.left hshows.right, (Int.sub_zero _).symm, rfl⟩
  | day style =>
      have hmidnight : midnight t.date = t := by
        rcases hshows with ⟨hsecond, hnano⟩
        cases t
        simp_all [midnight]
      refine ⟨t, ?_, (Int.sub_zero _).symm, rfl⟩
      exact (style.readEntered_text hyear).trans (congrArg some hmidnight)
  | internet style =>
      have hlow : firstYear < t.date.year := lt_of_lt_of_le (by decide) hyear.left
      have hhigh : t.date.year < lastYear := lt_of_le_of_lt hyear.right (by decide)
      rcases style.zone.seconds_bounds with ⟨hminutes, habove, hbelow⟩
      rcases exists_behind hlow hhigh hminutes habove hbelow with ⟨u, hu⟩
      refine ⟨u, ?_, seconds_of_behind hbelow hu⟩
      rw [readEntered?, text, readInternet_text style hyear hshows]
      exact congrArg (Option.or · _) hu

/-- A time that is entered in one of the spellings, with any blanks around it, is that time, in
universal time if it is written with an offset. -/
theorem entered_is_read_as_written (filter before after : String) (spelling : Spelling)
    (t : Timestamp) (hyear : HasFourDigits t.date.year) (hshows : spelling.ShowsAll t)
    (hbefore : Text.blank before = true) (hafter : Text.blank after = true) :
    exists u, Entry.date filter (before ++ spelling.text t ++ after) = .ok u ∧
      u.seconds = t.seconds - spelling.ahead ∧ u.nano = t.nano ∧
      (spelling.ahead = 0 -> u = t) := by
  rcases spelling.readEntered_text hyear hshows with ⟨u, hread, hseconds, hnano⟩
  rcases spelling.bare_text hyear with ⟨hbegins, hends⟩
  refine ⟨u, ?_, hseconds, hnano, ?_⟩
  · rw [Entry.date_eq_ok, String.toList_append, String.toList_append,
      trim_around hbefore hafter hbegins hends]
    exact hread
  · intro hahead
    rw [hahead, Int.sub_zero] at hseconds
    exact eq_of_seconds hseconds hnano

/-- Half an hour before the year 2021, on a clock five and a half hours behind. -/
def newYearsEve : Timestamp :=
  ⟨⟨2020, 12, 31, by decide⟩, 84600, 250000000, by decide⟩

def newYearsEveStyle : InternetStyle :=
  ⟨.blank, 2, .behind ⟨5, 30, by decide, by decide⟩, by decide⟩

/-- It is already the next year in universal time. -/
theorem entered_newYearsEve :
    newYearsEveStyle.text newYearsEve = "2020-12-31 23:30:00.25-05:30" ∧
      HasFourDigits newYearsEve.date.year ∧
      (Spelling.internet newYearsEveStyle).ShowsAll newYearsEve ∧
      Text.blank "  " = true ∧ Text.blank "\t" = true ∧
      Entry.date "signup_after" ("  " ++ newYearsEveStyle.text newYearsEve ++ "\t") =
        .ok ⟨⟨2021, 1, 1, by decide⟩, 18000, 250000000, by decide⟩ := by
  have hyear : HasFourDigits newYearsEve.date.year := ⟨by decide, by decide⟩
  have hshows : (Spelling.internet newYearsEveStyle).ShowsAll newYearsEve := by
    change newYearsEveStyle.unit ∣ newYearsEve.nano % nanosPerSecond
    decide
  refine ⟨by decide, hyear, hshows, by decide, by decide, ?_⟩
  rcases entered_is_read_as_written "signup_after" "  " "\t" (.internet newYearsEveStyle)
    newYearsEve hyear hshows (by decide) (by decide) with ⟨u, hread, hseconds, hnano, _⟩
  refine hread.trans (congrArg Except.ok (eq_of_seconds (hseconds.trans ?_) hnano))
  decide

end Time
end Audience
