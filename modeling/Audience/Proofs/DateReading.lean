import Mathlib.Data.List.DropRight
import Audience.Proofs.WrittenValues
import Audience.Time.Reading

/-!
# Reading written dates

## Texts without blanks around them
-/

namespace Audience

open Number

namespace Text

theorem toNat_of_isDigit {c : Char} (h : c.isDigit = true) : 48 <= c.toNat ∧ c.toNat <= 57 := by
  simp only [Char.isDigit, Bool.and_eq_true, decide_eq_true_eq, ge_iff_le,
    UInt32.le_iff_toNat_le] at h
  exact h

theorem isBlank_of_isDigit {c : Char} (h : c.isDigit = true) : isBlank c = false := by
  have hbounds := toNat_of_isDigit h
  simp [isBlank]
  omega

theorem trim_of_ends {s : List Char} (hfirst : forall c, s.head? = some c -> isBlank c = false)
    (hlast : forall c, s.getLast? = some c -> isBlank c = false) :
    trim s = s := by
  have hstart : trimStart s = s := by
    cases s with
    | nil =>
        rfl
    | cons c s =>
        rw [trimStart, List.dropWhile_cons_of_neg]
        simp [hfirst c rfl]
  have hend : s.rdropWhile isBlank = s := by
    rw [List.rdropWhile_eq_self_iff]
    intro hne
    rw [hlast _ (List.getLast?_eq_some_getLast hne)]
    exact Bool.false_ne_true
  rw [trim, hstart]
  exact hend

end Text

namespace Time

open Text

/-!
## Numbers in front of other characters

A reader takes as many digits as a field may have.  A number is read as a whole if it has
this many digits, or if something other than a digit stands behind it.
-/

def NoDigitFirst (rest : List Char) : Prop :=
  forall c, rest.head? = some c -> c.isDigit = false

theorem noDigitFirst_cons {c : Char} (hc : c.isDigit = false) (rest : List Char) :
    NoDigitFirst (c :: rest) := by
  intro d hd
  cases hd
  exact hc

theorem takeWhile_noDigitFirst {rest : List Char} (h : NoDigitFirst rest) (most : Nat) :
    (rest.take most).takeWhile Char.isDigit = [] := by
  cases rest with
  | nil =>
      simp
  | cons c rest =>
      cases most with
      | zero =>
          simp
      | succ most =>
          rw [List.take_succ_cons, List.takeWhile_cons_of_neg]
          simp [h c rfl]

variable {most : Nat} {digits rest : List Char}

theorem readNumber_append (hdigits : Digits digits) (hmost : digits.length <= most)
    (hstop : digits.length = most ∨ NoDigitFirst rest) :
    readNumber? most (digits ++ rest) = (natural? digits).map fun n => (n, rest) := by
  have hbehind : (rest.take (most - digits.length)).takeWhile Char.isDigit = [] := by
    rcases hstop with hfull | hrest
    · rw [hfull, Nat.sub_self]
      rfl
    · exact takeWhile_noDigitFirst hrest _
  have hread : ((digits ++ rest).take most).takeWhile Char.isDigit = digits := by
    rw [List.take_append, List.take_of_length_le hmost,
      List.takeWhile_append_of_pos hdigits, hbehind, List.append_nil]
  rw [readNumber?, hread, List.drop_left]

theorem padded_ne_nil (width n : Nat) : (padded width n).toList ≠ [] := by
  rw [padded, String.toList_append]
  exact List.append_ne_nil_of_right_ne_nil _ (toString_ne_nil n)

theorem readNumber_padded {width n : Nat} (hwidth : 0 < width) (h : n < tenTo width)
    (rest : List Char) :
    readNumber? width ((padded width n).toList ++ rest) = some (n, rest) := by
  have hlength := length_padded hwidth h
  rw [readNumber_append (digits_padded width n) hlength.le (Or.inl hlength), natural_padded]
  rfl

theorem readNumber_unbounded (width n : Nat) (h : NoDigitFirst rest) :
    readNumber? ((padded width n).toList ++ rest).length ((padded width n).toList ++ rest) =
      some (n, rest) := by
  have hlength : (padded width n).toList.length <=
      ((padded width n).toList ++ rest).length := by
    simp
  rw [readNumber_append (digits_padded width n) hlength (Or.inr h), natural_padded]
  rfl

theorem trimStart_digits (hdigits : Digits digits) (hne : digits ≠ []) (rest : List Char) :
    trimStart (digits ++ rest) = digits ++ rest := by
  cases digits with
  | nil =>
      exact absurd rfl hne
  | cons c digits =>
      have hc : isBlank c = false := isBlank_of_isDigit (hdigits c List.mem_cons_self)
      rw [List.cons_append, trimStart, List.dropWhile_cons_of_neg]
      simp [hc]

theorem readField_padded {n : Nat} (h : n < 100) (rest : List Char) :
    readField? 2 ((padded 2 n).toList ++ rest) = some (n, rest) := by
  have hsmall : n < tenTo 2 := h
  rw [readField?, trimStart_digits (digits_padded 2 n) (padded_ne_nil 2 n),
    readNumber_padded (by decide) hsmall]

/-!
## Years

A year outside the four digits has a sign, and then it may have any number of digits.
-/

theorem readYear_digits (hdigits : Digits digits) (hne : digits ≠ []) (rest : List Char) :
    readYear? (digits ++ rest) =
      (readNumber? 4 (digits ++ rest)).map fun (n, rest) => ((n : Int), rest) := by
  rw [readYear?, trimStart_digits hdigits hne]
  cases digits with
  | nil =>
      exact absurd rfl hne
  | cons c digits =>
      have hc : c.isDigit = true := hdigits c List.mem_cons_self
      rw [List.cons_append]
      split
      · rename_i heq
        cases heq
        cases hc
      · rename_i heq
        cases heq
        cases hc
      · rfl

theorem readYear_minus (s : List Char) :
    readYear? ('-' :: s) = (readNumber? s.length s).map fun (n, rest) => (-(n : Int), rest) :=
  rfl

theorem readYear_plus (s : List Char) :
    readYear? ('+' :: s) = (readNumber? s.length s).map fun (n, rest) => ((n : Int), rest) :=
  rfl

private theorem readYear_yearText (year : Int) (h : NoDigitFirst rest) :
    readYear? ((Timestamp.yearText year).toList ++ rest) = some (year, rest) := by
  have hread := @readNumber_unbounded rest 4 year.natAbs h
  unfold Timestamp.yearText
  dsimp only
  split
  case isTrue hnegative =>
    have hyear : -(year.natAbs : Int) = year := by omega
    have hsign : ("-" ++ padded 4 year.natAbs).toList ++ rest =
        '-' :: ((padded 4 year.natAbs).toList ++ rest) := by
      simp
    rw [hsign, readYear_minus, hread, Option.map_some]
    dsimp only
    rw [hyear]
  case isFalse hpositive =>
    have hyear : (year.natAbs : Int) = year := by omega
    split
    case isTrue hlong =>
      have hsign : ("+" ++ padded 4 year.natAbs).toList ++ rest =
          '+' :: ((padded 4 year.natAbs).toList ++ rest) := by
        simp
      rw [hsign, readYear_plus, hread, Option.map_some]
      dsimp only
      rw [hyear]
    case isFalse hshort =>
      have hsmall : year.natAbs < tenTo 4 := by
        have hbound : tenTo 4 = 10000 := rfl
        omega
      rw [readYear_digits (digits_padded 4 _) (padded_ne_nil 4 _),
        readNumber_padded (by decide) hsmall, Option.map_some]
      dsimp only
      rw [hyear]

/-!
## Elements of a pattern
-/

theorem readElements_cons {element : Element} {elements : List Element} {parts after : Parts}
    {s : List Char} (h : element.read? parts s = some (after, rest)) :
    readElements? (element :: elements) parts s = readElements? elements after rest := by
  rw [readElements?, h]

theorem read_year (parts : Parts) (year : Int) (h : NoDigitFirst rest) :
    Element.year.read? parts ((Timestamp.yearText year).toList ++ rest) =
      some ({ parts with year := some year }, rest) := by
  rw [Element.read?, readYear_yearText year h]
  rfl

def numberFields : List Element :=
  [.month, .day, .hour, .minute, .second]

def Parts.withField (parts : Parts) (n : Nat) : Element -> Parts
  | .month => { parts with month := some n }
  | .day => { parts with day := some n }
  | .hour => { parts with hour := some n }
  | .minute => { parts with minute := some n }
  | .second => { parts with second := n }
  | _ => parts

theorem read_field {element : Element} (hfield : element ∈ numberFields) (parts : Parts)
    {n : Nat} (h : n < 100) (rest : List Char) :
    element.read? parts ((padded 2 n).toList ++ rest) =
      some (parts.withField n element, rest) := by
  have hread := readField_padded h rest
  simp only [numberFields, List.mem_cons, List.not_mem_nil, or_false] at hfield
  rcases hfield with rfl | rfl | rfl | rfl | rfl <;> rw [Element.read?, hread] <;> rfl

@[simp] theorem read_mark (parts : Parts) (c : Char) (rest : List Char) :
    (Element.mark c).read? parts (c :: rest) = some (parts, rest) := by
  rw [Element.read?, if_pos (beq_self_eq_true c)]

theorem read_blank (parts : Parts) (h : trimStart rest = rest) :
    Element.blanks.read? parts (' ' :: rest) = some (parts, rest) := by
  have hblank : isBlank ' ' = true := by decide
  rw [trimStart] at h
  rw [Element.read?, trimStart, List.dropWhile_cons_of_pos hblank, h]

private theorem nano_of_read {element : Element} {parts after : Parts} {s : List Char}
    (hfraction : element ≠ .fraction) (h : element.read? parts s = some (after, rest)) :
    after.nano = parts.nano := by
  cases element with
  | fraction =>
      exact absurd rfl hfraction
  | mark c =>
      cases s with
      | nil =>
          cases h
      | cons first s =>
          rw [Element.read?] at h
          split at h
          · cases h
            rfl
          · cases h
  | blanks =>
      cases h
      rfl
  | _ =>
      rw [Element.read?] at h
      rcases Option.map_eq_some_iff.mp h with ⟨read, _, heq⟩
      cases heq
      rfl

theorem nano_of_readElements {elements : List Element} {parts after : Parts} {s : List Char}
    (hfraction : .fraction ∉ elements)
    (h : readElements? elements parts s = some (after, rest)) :
    after.nano = parts.nano := by
  induction elements generalizing parts s with
  | nil =>
      cases h
      rfl
  | cons element elements ih =>
      rw [List.mem_cons, not_or] at hfraction
      rw [readElements?] at h
      split at h
      · rename_i next behind hread
        rw [ih hfraction.right h, nano_of_read (Ne.symm hfraction.left) hread]
      · cases h

/-!
## The internet form

A date-time in the internet form has at least twenty characters: nineteen up to the second,
and one for the offset.
-/

theorem length_of_readExactly {count n : Nat} {s : List Char}
    (h : readExactly? count s = some (n, rest)) : s.length = count + rest.length := by
  unfold readExactly? at h
  dsimp only at h
  split at h
  · rename_i hlength
    rcases Option.map_eq_some_iff.mp h with ⟨m, _, heq⟩
    cases heq
    rw [beq_iff_eq, List.length_take] at hlength
    rw [List.length_drop]
    omega
  · cases h

theorem length_of_readMark {c : Char} {s : List Char} (h : readMark? c s = some rest) :
    s.length = rest.length + 1 := by
  unfold readMark? at h
  split at h
  · split at h
    · cases h
      rfl
    · cases h
  · cases h

private theorem length_of_readFraction {s : List Char} {nano : Nat}
    (h : readFraction? s = some (nano, rest)) : rest.length <= s.length := by
  unfold readFraction? at h
  split at h
  · rename_i digits
    rcases Option.map_eq_some_iff.mp h with ⟨m, _, heq⟩
    cases heq
    exact ((List.dropWhile_suffix Char.isDigit).trans (List.suffix_cons '.' digits)).length_le
  · cases h
    exact Nat.le_refl _

private theorem length_of_readOffset {s : List Char} {offset : Int}
    (h : readOffset? s = some (offset, rest)) : 0 < s.length := by
  cases s with
  | nil =>
      cases h
  | cons c s =>
      exact Nat.succ_pos _

theorem length_of_readInternet {s : List Char} {t : Timestamp} (h : readInternet? s = some t) :
    20 <= s.length := by
  unfold readInternet? at h
  rcases Option.bind_eq_some_iff.mp h with ⟨⟨year, s1⟩, hyear, h⟩
  rcases Option.bind_eq_some_iff.mp h with ⟨s2, hfirst, h⟩
  rcases Option.bind_eq_some_iff.mp h with ⟨⟨month, s3⟩, hmonth, h⟩
  rcases Option.bind_eq_some_iff.mp h with ⟨s4, hsecond, h⟩
  rcases Option.bind_eq_some_iff.mp h with ⟨⟨day, s5⟩, hday, h⟩
  cases s5 with
  | nil =>
      cases h
  | cons c s6 =>
      dsimp only at h
      split at h
      · rcases Option.bind_eq_some_iff.mp h with ⟨s7, hs, h⟩
        cases hs
        rcases Option.bind_eq_some_iff.mp h with ⟨⟨hour, s8⟩, hhour, h⟩
        rcases Option.bind_eq_some_iff.mp h with ⟨s9, hthird, h⟩
        rcases Option.bind_eq_some_iff.mp h with ⟨⟨minute, s10⟩, hminute, h⟩
        rcases Option.bind_eq_some_iff.mp h with ⟨s11, hfourth, h⟩
        rcases Option.bind_eq_some_iff.mp h with ⟨⟨second, s12⟩, hclock, h⟩
        rcases Option.bind_eq_some_iff.mp h with ⟨⟨nano, s13⟩, hnano, h⟩
        rcases Option.bind_eq_some_iff.mp h with ⟨⟨offset, s14⟩, hoffset, _⟩
        have hyear := length_of_readExactly hyear
        have hfirst := length_of_readMark hfirst
        have hmonth := length_of_readExactly hmonth
        have hsecond := length_of_readMark hsecond
        have hday := length_of_readExactly hday
        have hhour := length_of_readExactly hhour
        have hthird := length_of_readMark hthird
        have hminute := length_of_readExactly hminute
        have hfourth := length_of_readMark hfourth
        have hclock := length_of_readExactly hclock
        have hnano := length_of_readFraction hnano
        have hoffset := length_of_readOffset hoffset
        rw [List.length_cons] at hday
        dsimp only at hthird hfourth hnano hoffset
        have htime : s8.length = 6 + s12.length := by omega
        omega
      · cases h

end Time
end Audience
