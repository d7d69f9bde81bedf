import Audience.Http.Target
import Audience.Proofs.EncodedText
import Audience.Proofs.Splitting

/-!
# Escapes in addresses

## Bytes written as escapes

Reading takes an escape for the byte it stands for.  A byte that is read as itself may be
written as an escape without any other reading, even behind a percent sign, as long as it is no
digit that the percent sign could take.
-/

namespace Audience

namespace Form

open Text

/-- The byte is read as itself, and is no digit of an escape. -/
structure IsPassed (b : UInt8) : Prop where
  ne_percent : b.toNat ≠ 0x25
  ne_plus : b.toNat ≠ 0x2B
  notDigit : hexValue? b = none

/-- Some of the bytes that are read as themselves are written as escapes. -/
inductive Respelled : List UInt8 -> List UInt8 -> Prop where
  | nil : Respelled [] []
  | kept {bs cs : List UInt8} (b : UInt8) (h : Respelled bs cs) : Respelled (b :: bs) (b :: cs)
  | escaped {bs cs : List UInt8} {b : UInt8} (hb : IsPassed b) (h : Respelled bs cs) :
      Respelled (b :: bs) (0x25 :: hexByte (b.toNat / 16) :: hexByte (b.toNat % 16) :: cs)

private theorem escaped?_cons_eq_none {b : UInt8} (h : hexValue? b = none) (bs : List UInt8) :
    escaped? (b :: bs) = none := by
  cases bs with
  | nil => rfl
  | cons c bs => rw [escaped?, h]

private theorem escaped?_second_eq_none {b c : UInt8} (h : hexValue? c = none) (bs : List UInt8) :
    escaped? (b :: c :: bs) = none := by
  rw [escaped?, h]
  split
  · rename_i hsome
    cases hsome
  · rfl

theorem Respelled.escaped?_eq {bs cs : List UInt8} (h : Respelled bs cs) :
    escaped? bs = escaped? cs ∧
      forall value, escaped? bs = some value -> Respelled (bs.drop 2) (cs.drop 2) := by
  cases h with
  | nil =>
      exact ⟨rfl, fun _ _ => Respelled.nil⟩
  | escaped hb h =>
      rw [escaped?_cons_eq_none hb.notDigit, escaped?_cons_eq_none rfl]
      exact ⟨rfl, fun _ hsome => nomatch hsome⟩
  | kept b h =>
      cases h with
      | nil =>
          exact ⟨rfl, fun _ _ => Respelled.nil⟩
      | kept c h =>
          exact ⟨rfl, fun _ _ => h⟩
      | escaped hc h =>
          rw [escaped?_second_eq_none hc.notDigit, escaped?_second_eq_none rfl]
          exact ⟨rfl, fun _ hsome => nomatch hsome⟩

theorem Respelled.unescape_eq {bs cs : List UInt8} (h : Respelled bs cs) :
    unescape bs = unescape cs := by
  fun_induction unescape bs generalizing cs with
  | case1 =>
      cases h
      rw [unescape]
  | case2 b rest hpercent value hvalue ih =>
      cases h with
      | escaped hb h =>
          exact absurd (congrArg UInt8.toNat (beq_iff_eq.mp hpercent)) hb.ne_percent
      | kept b h =>
          have hrest := h.escaped?_eq
          rw [unescape, if_pos hpercent, ← hrest.left, hvalue]
          exact congrArg (value :: ·) (ih (hrest.right value hvalue))
  | case3 b rest hpercent hnone ih =>
      cases h with
      | escaped hb h =>
          exact absurd (congrArg UInt8.toNat (beq_iff_eq.mp hpercent)) hb.ne_percent
      | kept b h =>
          rw [unescape, if_pos hpercent, ← h.escaped?_eq.left, hnone]
          exact congrArg (b :: ·) (ih h)
  | case4 b rest hother ih =>
      cases h with
      | escaped hb h =>
          have hplus : (b == 0x2B) = false :=
            beq_eq_false_iff_ne.mpr fun heq => hb.ne_plus (congrArg UInt8.toNat heq)
          rw [unescape_escape, ← ih h, hplus]
          rfl
      | kept b h =>
          rw [unescape, if_neg hother, ih h]

theorem respelled_refl (bs : List UInt8) : Respelled bs bs := by
  induction bs with
  | nil => exact Respelled.nil
  | cons b bs ih => exact Respelled.kept b ih

theorem Respelled.append {bs cs ds es : List UInt8} (h : Respelled bs cs) (h' : Respelled ds es) :
    Respelled (bs ++ ds) (cs ++ es) := by
  induction h with
  | nil => exact h'
  | kept b _ ih => exact Respelled.kept b ih
  | escaped hb _ ih => exact Respelled.escaped hb ih

theorem respelled_escapes {bs : List UInt8} (h : forall b, b ∈ bs -> IsPassed b) :
    Respelled bs (bytesOf (bs.flatMap escapeByte)) := by
  induction bs with
  | nil => exact Respelled.nil
  | cons b bs ih =>
      rw [List.forall_mem_cons] at h
      rw [List.flatMap_cons, bytesOf_append, bytesOf_escapeByte]
      exact Respelled.escaped h.left (ih h.right)

theorem isPassed_of_le {b : UInt8} (h : 0x80 <= b.toNat) : IsPassed b where
  ne_percent := by omega
  ne_plus := by omega
  notDigit := by
    have hdigit : ¬ b.toNat <= 0x39 := by omega
    have hupper : ¬ b.toNat <= 0x46 := by omega
    have hlower : ¬ b.toNat <= 0x66 := by omega
    simp [hexValue?, hdigit, hupper, hlower]

private theorem le_of_mem_utf8EncodeChar {c : Char} (hc : 0x80 <= c.toNat) {b : UInt8}
    (hb : b ∈ String.utf8EncodeChar c) : 0x80 <= b.toNat := by
  have hvalue : 0x80 <= c.val.toNat := hc
  unfold String.utf8EncodeChar at hb
  dsimp only at hb
  rw [if_neg (by omega)] at hb
  split at hb
  · simp only [List.mem_cons, List.not_mem_nil, or_false] at hb
    rcases hb with rfl | rfl <;> rw [toNat_ofNat (by omega)] <;> omega
  · split at hb
    · simp only [List.mem_cons, List.not_mem_nil, or_false] at hb
      rcases hb with rfl | rfl | rfl <;> rw [toNat_ofNat (by omega)] <;> omega
    · simp only [List.mem_cons, List.not_mem_nil, or_false] at hb
      rcases hb with rfl | rfl | rfl | rfl <;> rw [toNat_ofNat (by omega)] <;> omega

theorem isPassed_of_isForbiddenInQuery {c : Char} (h : Http.isForbiddenInQuery c = true)
    {b : UInt8} (hb : b ∈ bytesOf [c]) : IsPassed b := by
  rw [bytesOf_singleton] at hb
  by_cases hc : 0x80 <= c.toNat
  · exact isPassed_of_le (le_of_mem_utf8EncodeChar hc hb)
  · have hall : forall n, n < 0x80 -> Http.isForbiddenInQuery (Char.ofNat n) = true ->
        (UInt8.ofNat n).toNat ≠ 0x25 ∧ (UInt8.ofNat n).toNat ≠ 0x2B ∧
          hexValue? (UInt8.ofNat n) = none := by
      decide
    have hsmall : c.toNat < 0x80 := by omega
    have hchar : Char.ofNat c.toNat = c := c.ofNat_toNat
    rw [← hchar, utf8EncodeChar_ofNat hsmall, List.mem_singleton] at hb
    rcases hall c.toNat hsmall (by rwa [hchar]) with ⟨hpercent, hplus, hdigit⟩
    rw [hb]
    exact ⟨hpercent, hplus, hdigit⟩

end Form

namespace Http

open Text Form

/-!
## Escaped texts

The characters that may not stand in a part of an address are written as escapes there, and
the others stand for themselves.  In a query this makes no difference to what is read.
-/

variable {isForbidden : Char -> Bool}

theorem escaped_eq_flatMap (s : List Char) :
    escaped isForbidden s = s.flatMap fun c => escaped isForbidden [c] := by
  unfold escaped
  simp only [List.flatMap_singleton]

theorem mem_escaped {s : List Char} {c : Char} (h : c ∈ escaped isForbidden s) :
    isWritten c = true ∨ c ∈ s ∧ isForbidden c = false := by
  rcases List.mem_flatMap.mp h with ⟨d, hd, hc⟩
  split at hc
  · rcases List.mem_flatMap.mp hc with ⟨b, _, hc⟩
    exact Or.inl (isWritten_escapeByte hc)
  · rename_i hallowed
    rw [List.mem_singleton.mp hc]
    exact Or.inr ⟨hd, Bool.not_eq_true _ ▸ hallowed⟩

theorem notMem_escaped {c : Char} (hforbidden : isForbidden c = true)
    (hwritten : isWritten c = false) (s : List Char) : c ∉ escaped isForbidden s := by
  intro h
  rcases mem_escaped h with hc | ⟨_, hc⟩
  · rw [hc] at hwritten
    cases hwritten
  · rw [hc] at hforbidden
    cases hforbidden

theorem isEmpty_escaped (s : List Char) : (escaped isForbidden s).isEmpty = s.isEmpty := by
  cases s with
  | nil =>
      rfl
  | cons c s =>
      have hbytes : bytesOf [c] ≠ [] := by
        rw [bytesOf_singleton]
        exact String.utf8EncodeChar_ne_nil
      rw [escaped, List.flatMap_cons, List.isEmpty_cons, List.isEmpty_eq_false_iff]
      apply List.append_ne_nil_of_left_ne_nil
      split
      · rcases hfirst : bytesOf [c] with _ | ⟨b, bs⟩
        · exact absurd hfirst hbytes
        · exact List.cons_ne_nil _ _
      · exact List.cons_ne_nil _ _

theorem decode_escaped (s : List Char) :
    decode (escaped isForbiddenInQuery s) = decode s := by
  have hrespelled : Respelled (bytesOf s) (bytesOf (escaped isForbiddenInQuery s)) := by
    induction s with
    | nil =>
        exact Respelled.nil
    | cons c s ih =>
        have hsplit : bytesOf (c :: s) = bytesOf [c] ++ bytesOf s := bytesOf_append [c] s
        rw [escaped, List.flatMap_cons, bytesOf_append, hsplit]
        apply Respelled.append _ ih
        split
        · rename_i hforbidden
          exact respelled_escapes fun b hb => isPassed_of_isForbiddenInQuery hforbidden hb
        · exact respelled_refl _
  rw [decode, decode, hrespelled.unescape_eq]

end Http
end Audience
