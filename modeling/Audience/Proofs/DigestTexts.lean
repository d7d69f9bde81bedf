import Audience.Report.Digest

/-!
# Digests in hexadecimal

A digest has 32 bytes whatever the message, and each byte is written with two digits of its
own.  So all digests have texts of one length, and no two of them are written alike.
-/

namespace Audience
namespace Report
namespace Digest

private theorem length_bigEndian (count n : Nat) : (bigEndian count n).length = count := by
  induction count generalizing n with
  | zero =>
      rfl
  | succ count ih =>
      rw [bigEndian, List.length_append, ih, List.length_singleton]

@[simp] theorem length_sha256 (message : List UInt8) : (sha256 message).length = 32 := by
  simp only [sha256, State.words, List.flatMap_cons, List.flatMap_nil, List.length_append,
    length_bigEndian, List.length_nil]

def lowerDigits : List Char :=
  "0123456789abcdef".toList

theorem hexDigit_mem {n : Nat} (h : n < 16) : hexDigit n ∈ lowerDigits := by
  revert n
  decide

theorem hexDigit_inj {m n : Nat} (hm : m < 16) (hn : n < 16) (h : hexDigit m = hexDigit n) :
    m = n := by
  have hall : forall m, m < 16 -> forall n, n < 16 -> hexDigit m = hexDigit n -> m = n := by
    decide
  exact hall m hm n hn h

@[simp] theorem hex_cons (b : UInt8) (bytes : List UInt8) :
    hex (b :: bytes) = hexDigit (b.toNat / 16) :: hexDigit (b.toNat % 16) :: hex bytes :=
  rfl

@[simp] theorem length_hex (bytes : List UInt8) : (hex bytes).length = 2 * bytes.length := by
  induction bytes with
  | nil =>
      rfl
  | cons b bytes ih =>
      rw [hex_cons, List.length_cons, List.length_cons, ih, List.length_cons]
      omega

theorem lowerDigits_of_mem_hex {bytes : List UInt8} {c : Char} (h : c ∈ hex bytes) :
    c ∈ lowerDigits := by
  rcases List.mem_flatMap.mp h with ⟨b, _, hc⟩
  have hbyte := b.toNat_lt
  simp only [List.mem_cons, List.not_mem_nil, or_false] at hc
  rcases hc with rfl | rfl
  · exact hexDigit_mem (by omega)
  · exact hexDigit_mem (by omega)

theorem hex_injective : Function.Injective hex := by
  intro bytes
  induction bytes with
  | nil =>
      intro others h
      cases others with
      | nil =>
          rfl
      | cons c others =>
          cases h
  | cons b bytes ih =>
      intro others h
      cases others with
      | nil =>
          cases h
      | cons c others =>
          simp only [hex_cons, List.cons.injEq] at h
          rcases h with ⟨hhigh, hlow, hrest⟩
          have hb := b.toNat_lt
          have hc := c.toNat_lt
          have hsixteens := hexDigit_inj (by omega) (by omega) hhigh
          have hones := hexDigit_inj (by omega) (by omega) hlow
          have hbyte : b = c := UInt8.toNat_inj.mp (by omega)
          rw [hbyte, ih hrest]

end Digest
end Report
end Audience
