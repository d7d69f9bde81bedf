import Audience.Proofs.DateLiterals
import Audience.Proofs.EnteredDates

/-!
# Times cut to the microsecond

## The cut time

The text that marks a time as universal shows six decimals and cuts off the rest.  It is one of
the spellings of the internet form, so what it shows is what is read of it: the time without
the nanoseconds beyond its last whole microsecond.
-/

namespace Audience
namespace Time
namespace Timestamp

open Number Text

def wholeMicro (t : Timestamp) : Timestamp where
  date := t.date
  second := t.second
  nano := t.nano / 1000 * 1000
  isClock := by
    have hclock := t.isClock
    unfold IsClock nanosPerSecond at hclock ⊢
    omega

@[simp] theorem nano_wholeMicro (t : Timestamp) : t.wholeMicro.nano = t.nano / 1000 * 1000 :=
  rfl

theorem wholeMicro_eq_iff {s t : Timestamp} :
    s.wholeMicro = t.wholeMicro <->
      s.date = t.date ∧ s.second = t.second ∧ s.nano / 1000 = t.nano / 1000 := by
  have hnano : s.nano / 1000 * 1000 = t.nano / 1000 * 1000 <->
      s.nano / 1000 = t.nano / 1000 := by
    omega
  simp only [wholeMicro, mk.injEq, hnano]

theorem microsText_wholeMicro (t : Timestamp) : t.wholeMicro.microsText = t.microsText := by
  have hunit : nanosPerSecond = 1000000000 := rfl
  have hwhole : t.wholeMicro.nano / nanosPerSecond = t.nano / nanosPerSecond := by
    rw [nano_wholeMicro, hunit]
    omega
  have hdecimals : t.wholeMicro.nano % nanosPerSecond / 1000 =
      t.nano % nanosPerSecond / 1000 := by
    rw [nano_wholeMicro, hunit]
    omega
  have hclock : t.wholeMicro.clockText = t.clockText := by
    rw [clockText, hwhole]
    rfl
  rw [microsText, hclock, hdecimals]
  rfl

/-!
## The text in the internet form
-/

def microsStyle : InternetStyle :=
  ⟨.capital, 6, .universal true, by decide⟩

theorem microsText_eq (t : Timestamp) : t.microsText = microsStyle.text t := by
  have hfraction : microsStyle.fractionText t =
      "." ++ padded 6 (t.nano % nanosPerSecond / 1000) := rfl
  rw [microsText, InternetStyle.text, hfraction, ← String.append_assoc]
  rfl

theorem behind_zero (t : Timestamp) : t.behind? 0 = some t := by
  have hday : t.second < 86400 := t.isClock.left
  unfold behind?
  dsimp only
  rw [if_neg (by omega), if_pos (by omega)]
  exact of_eq_some rfl (by omega) rfl

private theorem readInternet_microsText {t : Timestamp} (hyear : HasFourDigits t.date.year) :
    readInternet? t.microsText.toList = some t.wholeMicro := by
  have hunit : microsStyle.unit ∣ t.wholeMicro.nano % nanosPerSecond := by
    have hthousand : microsStyle.unit = 1000 := rfl
    have hsecond : nanosPerSecond = 1000000000 := rfl
    rw [hthousand, hsecond, nano_wholeMicro]
    omega
  rw [← microsText_wholeMicro, microsText_eq,
    readInternet_text (t := t.wholeMicro) microsStyle hyear hunit]
  exact behind_zero _

/-- Two texts are the same only if the times lie in the same microsecond. -/
theorem microsText_eq_iff {s t : Timestamp} (hs : HasFourDigits s.date.year)
    (ht : HasFourDigits t.date.year) :
    s.microsText = t.microsText <-> s.wholeMicro = t.wholeMicro := by
  constructor
  · intro h
    have hread := readInternet_microsText hs
    rw [h, readInternet_microsText ht] at hread
    exact (Option.some.inj hread).symm
  · intro h
    rw [← microsText_wholeMicro s, h, microsText_wholeMicro]

theorem length_microsText {t : Timestamp} (hyear : HasFourDigits t.date.year) :
    t.microsText.toList.length = 27 := by
  have hdecimals : t.nano % nanosPerSecond / 1000 < tenTo 6 := by
    have hbelow : t.nano % nanosPerSecond < nanosPerSecond := Nat.mod_lt _ (by decide)
    have hunit : nanosPerSecond = 1000000000 := rfl
    have hbound : tenTo 6 = 1000000 := rfl
    omega
  have hsix := length_padded (by decide) hdecimals
  have hseconds := length_sqlText hyear.left hyear.right
  simp only [microsText, sqlText, String.toList_append, List.length_append] at hseconds ⊢
  rw [hsix]
  have hmarks : " ".toList.length = 1 ∧ "T".toList.length = 1 ∧ ".".toList.length = 1 ∧
      "Z".toList.length = 1 := ⟨rfl, rfl, rfl, rfl⟩
  omega

end Timestamp
end Time
end Audience
