import Mathlib.Data.Set.Function
import Audience.Proofs.CutTimes
import Audience.Proofs.DigestTexts
import Audience.Proofs.EncodedText
import Audience.Report.Service

/-!
# Names of reports

## Messages

The message of a name is the template with the time directly behind it.  In the years of four
digits the text of the time has a fixed length, so it can be cut off again, even where the
template ends in what looks like a time.
-/

namespace Audience
namespace Report

open Time Timestamp Text

theorem append_microsText_inj {s t : String} {a b : Timestamp}
    (ha : HasFourDigits a.date.year) (hb : HasFourDigits b.date.year) :
    s ++ a.microsText = t ++ b.microsText <-> s = t ∧ a.microsText = b.microsText := by
  constructor
  · intro h
    have hlength : a.microsText.toList.length = b.microsText.toList.length := by
      rw [length_microsText ha, length_microsText hb]
    rw [← String.toList_inj, String.toList_append, String.toList_append] at h
    rcases List.append_inj' h hlength with ⟨htemplate, htime⟩
    exact ⟨String.toList_inj.mp htemplate, String.toList_inj.mp htime⟩
  · intro hparts
    rw [hparts.left, hparts.right]

def nameMessage (template : String) (time : Timestamp) : List UInt8 :=
  bytesOf (template.toList ++ time.microsText.toList)

theorem slug_eq (template : String) (time : Timestamp) :
    slug template time =
      String.ofList (Digest.hex (Digest.sha256 (nameMessage template time))) :=
  rfl

theorem nameMessage_inj {s t : String} {a b : Timestamp} :
    nameMessage s a = nameMessage t b <-> s ++ a.microsText = t ++ b.microsText := by
  rw [nameMessage, nameMessage, bytesOf_injective.eq_iff, ← String.toList_append,
    ← String.toList_append, String.toList_inj]

/-- Outside these years a sign in front of the year, or its first digit, may as well belong to
the template. -/
example :
    nameMessage "" (midnight ⟨12345, 1, 1, by decide⟩) =
      nameMessage "+1" (midnight ⟨2345, 1, 1, by decide⟩) := by
  decide

/-!
## Names

A name is the digest of its message, written in full.  Nothing but a collision of digests can
give one name to two messages.
-/

/-- 64 hexadecimal digits in lower case. -/
def IsDigestText (name : String) : Prop :=
  name.toList.length = 64 ∧ forall c, c ∈ name.toList -> c ∈ Digest.lowerDigits

private theorem isDigestText_slug (template : String) (time : Timestamp) :
    IsDigestText (slug template time) := by
  rw [slug_eq, IsDigestText, String.toList_ofList]
  refine ⟨?_, fun c hc => Digest.lowerDigits_of_mem_hex hc⟩
  simp

private theorem slug_inj {s t : String} {a b : Timestamp} :
    slug s a = slug t b <->
      Digest.sha256 (nameMessage s a) = Digest.sha256 (nameMessage t b) := by
  rw [slug_eq, slug_eq, String.ofList_inj, Digest.hex_injective.eq_iff]

/--
Every name is the text of a digest.  The template and the time can be told from the message of
a name, down to the microsecond, without a separator between them; so if the digest tells the
two messages apart, names collide only where template and microsecond coincide.
-/
theorem slugs_tell_template_and_microsecond :
    (forall template time, IsDigestText (slug template time)) ∧
      forall (s t : String) (a b : Timestamp),
        HasFourDigits a.date.year -> HasFourDigits b.date.year ->
          (s ++ a.microsText = t ++ b.microsText <-> s = t ∧ a.microsText = b.microsText) ∧
          (a.microsText = b.microsText <->
            a.date = b.date ∧ a.second = b.second ∧ a.nano / 1000 = b.nano / 1000) ∧
          (Set.InjOn Digest.sha256 {nameMessage s a, nameMessage t b} ->
            (slug s a = slug t b <-> s = t ∧ a.microsText = b.microsText)) := by
  refine ⟨isDigestText_slug, ?_⟩
  intro s t a b ha hb
  refine ⟨append_microsText_inj ha hb, ?_, ?_⟩
  · rw [microsText_eq_iff ha hb, wholeMicro_eq_iff]
  · intro hdigest
    rw [slug_inj, hdigest.eq_iff (Set.mem_insert _ _) (Set.mem_insert_of_mem _ rfl),
      nameMessage_inj, append_microsText_inj ha hb]

def noonOfMay : Timestamp :=
  ⟨⟨2024, 5, 1, by decide⟩, 43200, 250000999, by decide⟩

/-- A template that ends in the text of the same time is told apart. -/
theorem slugs_of_timed_template :
    HasFourDigits noonOfMay.date.year ∧
      Set.InjOn Digest.sha256
        {nameMessage "SELECT 1" noonOfMay,
          nameMessage "SELECT 12024-05-01T12:00:00.250000Z" noonOfMay} ∧
      slug "SELECT 1" noonOfMay ≠ slug "SELECT 12024-05-01T12:00:00.250000Z" noonOfMay := by
  have hyear : HasFourDigits noonOfMay.date.year := ⟨by decide, by decide⟩
  have hdigest : Set.InjOn Digest.sha256
      {nameMessage "SELECT 1" noonOfMay,
        nameMessage "SELECT 12024-05-01T12:00:00.250000Z" noonOfMay} := by
    rw [Set.injOn_pair]
    intro hsame
    have hdifferent : Digest.sha256 (nameMessage "SELECT 1" noonOfMay) ≠
        Digest.sha256 (nameMessage "SELECT 12024-05-01T12:00:00.250000Z" noonOfMay) := by
      decide +kernel
    exact absurd hsame hdifferent
  refine ⟨hyear, hdigest, ?_⟩
  intro hname
  have hparts := (slugs_tell_template_and_microsecond.right _ _ _ _ hyear hyear).right.right
    hdigest
  exact absurd (hparts.mp hname).left (by decide)

end Report
end Audience
