import Audience.Form.Encoding

/-!
# Encoded texts are read back

## Characters from bytes

The lead byte of a character says how many tails follow and in which range the first of them
lies, so that no character is written in two ways.  Whatever bytes follow a character, it is
read off as a whole.
-/

namespace Audience

namespace Text

def tailRange : Nat × Nat := (0x80, 0xBF)

theorem toNat_ofNat {n : Nat} (h : n < 256) : (UInt8.ofNat n).toNat = n := by
  rw [UInt8.toNat_ofNat']
  exact Nat.mod_eq_of_lt h

theorem lead?_one {n : Nat} (h : n < 0x80) : lead? n = some ⟨n, []⟩ := by
  rw [lead?, if_pos h]

theorem lead?_two {n : Nat} (hlow : 0xC2 <= n) (hhigh : n < 0xE0) :
    lead? n = some ⟨n - 0xC0, [tailRange]⟩ := by
  rw [lead?, if_neg (by omega), if_neg (by omega), if_pos hhigh]
  rfl

def secondOfThree (n : Nat) : Nat × Nat :=
  (if n = 0xE0 then 0xA0 else 0x80, if n = 0xED then 0x9F else 0xBF)

theorem lead?_three {n : Nat} (hlow : 0xE0 <= n) (hhigh : n < 0xF0) :
    lead? n = some ⟨n - 0xE0, [secondOfThree n, tailRange]⟩ := by
  rw [lead?, if_neg (by omega), if_neg (by omega), if_neg (by omega)]
  by_cases hfirst : n = 0xE0
  · subst hfirst
    rfl
  by_cases hsurrogate : n = 0xED
  · subst hsurrogate
    rfl
  · simp [hfirst, hsurrogate, hhigh, secondOfThree, tailRange]

def secondOfFour (n : Nat) : Nat × Nat :=
  (if n = 0xF0 then 0x90 else 0x80, if n = 0xF4 then 0x8F else 0xBF)

theorem lead?_four {n : Nat} (hlow : 0xF0 <= n) (hhigh : n <= 0xF4) :
    lead? n = some ⟨n - 0xF0, [secondOfFour n, tailRange, tailRange]⟩ := by
  rw [lead?, if_neg (by omega), if_neg (by omega), if_neg (by omega)]
  by_cases hfirst : n = 0xF0
  · subst hfirst
    rfl
  by_cases hlast : n = 0xF4
  · subst hlast
    rfl
  · have hsmaller : n < 0xF4 := by omega
    have hlarger : ¬ n < 0xF0 := by omega
    have hother : n ≠ 0xE0 ∧ n ≠ 0xED := by omega
    simp [hfirst, hlast, hsmaller, hlarger, hother, secondOfFour, tailRange]

theorem readTails_cons {bits n : Nat} {range : Nat × Nat} (tails : List (Nat × Nat))
    (rest : List UInt8) (hlow : range.1 <= n) (hhigh : n <= range.2) (hbyte : n < 256) :
    readTails bits (range :: tails) (UInt8.ofNat n :: rest) =
      readTails (bits * 64 + (n - 0x80)) tails rest := by
  rw [readTails, toNat_ofNat hbyte]
  simp [hlow, hhigh]

theorem textOf_cons {n : Nat} {lead : Lead} (hbyte : n < 256) (h : lead? n = some lead)
    (rest : List UInt8) :
    textOf (UInt8.ofNat n :: rest) =
      (readTails lead.bits lead.tails rest).1 ::
        textOf (readTails lead.bits lead.tails rest).2 := by
  rw [textOf, toNat_ofNat hbyte, h]

theorem textOf_one {n : Nat} (h : n <= 0x7F) (rest : List UInt8) :
    textOf (UInt8.ofNat n :: rest) = Char.ofNat n :: textOf rest := by
  rw [textOf_cons (by omega) (lead?_one (by omega))]
  rfl

theorem textOf_two {n : Nat} (hlow : 0x7F < n) (hhigh : n <= 0x7FF) (rest : List UInt8) :
    textOf (UInt8.ofNat (n / 64 % 32 + 192) :: UInt8.ofNat (n % 64 + 128) :: rest) =
      Char.ofNat n :: textOf rest := by
  have hbits : (n / 64 % 32 + 192 - 0xC0) * 64 + (n % 64 + 128 - 0x80) = n := by omega
  rw [textOf_cons (by omega) (lead?_two (by omega) (by omega))]
  dsimp only
  rw [readTails_cons _ _ (by simp [tailRange]) (by simp [tailRange]; omega) (by omega), hbits]
  rfl

/-- Numbers of surrogates belong to no character. -/
private theorem textOf_three {n : Nat} (hlow : 0x7FF < n) (hhigh : n <= 0xFFFF)
    (hvalid : n < 0xD800 ∨ 0xDFFF < n) (rest : List UInt8) :
    textOf (UInt8.ofNat (n / 4096 % 16 + 224) :: UInt8.ofNat (n / 64 % 64 + 128) ::
        UInt8.ofNat (n % 64 + 128) :: rest) =
      Char.ofNat n :: textOf rest := by
  have hbits : ((n / 4096 % 16 + 224 - 0xE0) * 64 + (n / 64 % 64 + 128 - 0x80)) * 64 +
      (n % 64 + 128 - 0x80) = n := by omega
  have hrange : (secondOfThree (n / 4096 % 16 + 224)).1 <= n / 64 % 64 + 128 ∧
      n / 64 % 64 + 128 <= (secondOfThree (n / 4096 % 16 + 224)).2 := by
    unfold secondOfThree
    split <;> split <;> dsimp only <;> omega
  rw [textOf_cons (by omega) (lead?_three (by omega) (by omega))]
  dsimp only
  rw [readTails_cons _ _ hrange.left hrange.right (by omega),
    readTails_cons _ _ (by simp [tailRange]) (by simp [tailRange]; omega) (by omega), hbits]
  rfl

private theorem textOf_four {n : Nat} (hlow : 0xFFFF < n) (hvalid : n < 0x110000)
    (rest : List UInt8) :
    textOf (UInt8.ofNat (n / 262144 % 8 + 240) :: UInt8.ofNat (n / 4096 % 64 + 128) ::
        UInt8.ofNat (n / 64 % 64 + 128) :: UInt8.ofNat (n % 64 + 128) :: rest) =
      Char.ofNat n :: textOf rest := by
  have hbits : (((n / 262144 % 8 + 240 - 0xF0) * 64 + (n / 4096 % 64 + 128 - 0x80)) * 64 +
      (n / 64 % 64 + 128 - 0x80)) * 64 + (n % 64 + 128 - 0x80) = n := by omega
  have hrange : (secondOfFour (n / 262144 % 8 + 240)).1 <= n / 4096 % 64 + 128 ∧
      n / 4096 % 64 + 128 <= (secondOfFour (n / 262144 % 8 + 240)).2 := by
    unfold secondOfFour
    split <;> split <;> dsimp only <;> omega
  rw [textOf_cons (by omega) (lead?_four (by omega) (by omega))]
  dsimp only
  rw [readTails_cons _ _ hrange.left hrange.right (by omega),
    readTails_cons _ _ (by simp [tailRange]) (by simp [tailRange]; omega) (by omega),
    readTails_cons _ _ (by simp [tailRange]) (by simp [tailRange]; omega) (by omega), hbits]
  rfl

private theorem textOf_utf8EncodeChar (c : Char) (rest : List UInt8) :
    textOf (String.utf8EncodeChar c ++ rest) = c :: textOf rest := by
  have hchar : Char.ofNat c.val.toNat = c := c.ofNat_toNat
  have hvalid : c.val.toNat < 0xD800 ∨ 0xDFFF < c.val.toNat ∧ c.val.toNat < 0x110000 := c.valid
  unfold String.utf8EncodeChar
  dsimp only
  split
  · rename_i hone
    rw [List.singleton_append, textOf_one hone, hchar]
  · split
    · rename_i hone htwo
      rw [List.cons_append, List.singleton_append, textOf_two (by omega) htwo, hchar]
    · split
      · rename_i htwo hthree
        simp only [List.cons_append, List.nil_append]
        rw [textOf_three (by omega) hthree (by omega), hchar]
      · simp only [List.cons_append, List.nil_append]
        rw [textOf_four (by omega) (by omega), hchar]

@[simp] theorem textOf_bytesOf (s : List Char) : textOf (bytesOf s) = s := by
  induction s with
  | nil =>
      rw [bytesOf, List.flatMap_nil, textOf]
  | cons c s ih =>
      rw [bytesOf, List.flatMap_cons, textOf_utf8EncodeChar]
      exact congrArg (c :: ·) ih

theorem bytesOf_injective : Function.Injective bytesOf :=
  Function.LeftInverse.injective textOf_bytesOf

@[simp] theorem bytesOf_append (s t : List Char) : bytesOf (s ++ t) = bytesOf s ++ bytesOf t :=
  List.flatMap_append

end Text

namespace Form

open Text

/-!
## Bytes from written characters

A byte is written as itself, as a plus sign or as an escape.  No separator of a form is among
the characters that any byte is written with.
-/

theorem isPlain_iff (b : UInt8) :
    isPlain b = true <->
      0x30 <= b.toNat ∧ b.toNat <= 0x39 ∨ 0x41 <= b.toNat ∧ b.toNat <= 0x5A ∨
        0x61 <= b.toNat ∧ b.toNat <= 0x7A ∨
        b.toNat = 0x2A ∨ b.toNat = 0x2D ∨ b.toNat = 0x2E ∨ b.toNat = 0x5F := by
  simp [isPlain, or_assoc]

theorem utf8EncodeChar_ofNat {n : Nat} (h : n < 0x80) :
    String.utf8EncodeChar (Char.ofNat n) = [UInt8.ofNat n] := by
  have hvalid : n.isValidChar := Or.inl (by omega)
  have hvalue : (Char.ofNat n).val.toNat = n := by
    rw [Char.ofNat, dif_pos hvalid]
    rfl
  unfold String.utf8EncodeChar
  rw [hvalue]
  exact if_pos (by omega)

def hexByte (n : Nat) : UInt8 :=
  UInt8.ofNat (if n < 10 then 0x30 + n else 0x37 + n)

theorem utf8EncodeChar_hexDigit {n : Nat} (h : n < 16) :
    String.utf8EncodeChar (hexDigit n) = [hexByte n] := by
  apply utf8EncodeChar_ofNat
  split <;> omega

theorem hexValue?_hexByte {n : Nat} (h : n < 16) : hexValue? (hexByte n) = some n := by
  have hbyte : (hexByte n).toNat = if n < 10 then 0x30 + n else 0x37 + n := by
    apply toNat_ofNat
    split <;> omega
  rw [hexValue?, hbyte]
  by_cases hten : n < 10
  · have hdigit : 0x30 + n <= 0x39 := by omega
    simp [hten, hdigit]
  · have hupper : 10 <= n ∧ n <= 15 := by omega
    have hnumber : ¬ 0x37 + n <= 0x39 := by omega
    have hletter : 0x41 <= 0x37 + n ∧ 0x37 + n <= 0x46 := by omega
    simp [hten, hnumber, hletter]

@[simp] theorem bytesOf_singleton (c : Char) : bytesOf [c] = String.utf8EncodeChar c :=
  List.flatMap_singleton _ c

theorem bytesOf_escapeByte (b : UInt8) :
    bytesOf (escapeByte b) = [0x25, hexByte (b.toNat / 16), hexByte (b.toNat % 16)] := by
  have hhigh := utf8EncodeChar_hexDigit (n := b.toNat / 16) (by have := b.toNat_lt; omega)
  have hlow := utf8EncodeChar_hexDigit (n := b.toNat % 16) (by omega)
  have hpercent : String.utf8EncodeChar '%' = [0x25] := rfl
  simp only [bytesOf, escapeByte, List.flatMap_cons, List.flatMap_nil, hpercent, hhigh, hlow,
    List.append_nil, List.singleton_append]

theorem unescape_escape (b : UInt8) (rest : List UInt8) :
    unescape (0x25 :: hexByte (b.toNat / 16) :: hexByte (b.toNat % 16) :: rest) =
      b :: unescape rest := by
  have hbyte : UInt8.ofNat (16 * (b.toNat / 16) + b.toNat % 16) = b := by
    rw [Nat.div_add_mod, UInt8.ofNat_toNat]
  have hescaped :
      escaped? (hexByte (b.toNat / 16) :: hexByte (b.toNat % 16) :: rest) = some b := by
    rw [escaped?, hexValue?_hexByte (by have := b.toNat_lt; omega),
      hexValue?_hexByte (by omega)]
    dsimp only
    rw [hbyte]
  rw [unescape, if_pos (beq_self_eq_true _), hescaped]
  rfl

private theorem unescape_other {b : UInt8} (h : b.toNat ≠ 0x25) (rest : List UInt8) :
    unescape (b :: rest) = (if b == 0x2B then 0x20 else b) :: unescape rest := by
  have hpercent : (b == 0x25) = false := by
    rw [beq_eq_false_iff_ne]
    intro heq
    exact h (congrArg UInt8.toNat heq)
  rw [unescape, hpercent]
  rfl

private theorem unescape_encodeByte (b : UInt8) (rest : List UInt8) :
    unescape (bytesOf (encodeByte b) ++ rest) = b :: unescape rest := by
  unfold encodeByte
  split
  · rename_i hplain
    rw [isPlain_iff] at hplain
    have hplus : (b == 0x2B) = false := by
      rw [beq_eq_false_iff_ne]
      intro heq
      have hvalue : b.toNat = 0x2B := congrArg UInt8.toNat heq
      omega
    rw [bytesOf_singleton, utf8EncodeChar_ofNat (by omega), UInt8.ofNat_toNat,
      List.singleton_append, unescape_other (by omega), hplus]
    rfl
  · split
    · rename_i hblank
      have hb : b = 0x20 := eq_of_beq hblank
      have hplus : bytesOf ['+'] = [0x2B] := rfl
      rw [hplus, List.singleton_append, unescape_other (by decide), hb]
      rfl
    · rw [bytesOf_escapeByte]
      exact unescape_escape b rest

private theorem unescape_written (bytes : List UInt8) :
    unescape (bytesOf (bytes.flatMap encodeByte)) = bytes := by
  induction bytes with
  | nil =>
      rw [List.flatMap_nil, bytesOf, List.flatMap_nil, unescape]
  | cons b bytes ih =>
      rw [List.flatMap_cons, bytesOf_append, unescape_encodeByte, ih]

@[simp] theorem decode_encode (s : List Char) : decode (encode s) = s := by
  rw [decode, encode, unescape_written, textOf_bytesOf]

def isWritten (c : Char) : Bool :=
  c.isAlphanum || c ∈ ['*', '-', '.', '_', '+', '%']

theorem isWritten_plain {b : UInt8} (h : isPlain b = true) :
    isWritten (Char.ofNat b.toNat) = true := by
  have hall : forall n, n < 128 -> isPlain (UInt8.ofNat n) = true ->
      isWritten (Char.ofNat n) = true := by
    decide
  have hbyte := (isPlain_iff b).mp h
  apply hall b.toNat (by omega)
  rwa [UInt8.ofNat_toNat]

private theorem isWritten_hexDigit {n : Nat} (h : n < 16) : isWritten (hexDigit n) = true := by
  revert n
  decide

theorem isWritten_escapeByte {b : UInt8} {c : Char} (h : c ∈ escapeByte b) :
    isWritten c = true := by
  have hbyte := b.toNat_lt
  simp only [escapeByte, List.mem_cons, List.not_mem_nil, or_false] at h
  rcases h with rfl | rfl | rfl
  · rfl
  · exact isWritten_hexDigit (by omega)
  · exact isWritten_hexDigit (by omega)

private theorem isWritten_encode {s : List Char} {c : Char} (h : c ∈ encode s) :
    isWritten c = true := by
  rcases List.mem_flatMap.mp h with ⟨b, _, hc⟩
  unfold encodeByte at hc
  split at hc
  · rename_i hplain
    rw [List.mem_singleton.mp hc]
    exact isWritten_plain hplain
  · split at hc
    · rw [List.mem_singleton.mp hc]
      rfl
    · exact isWritten_escapeByte hc

theorem notMem_encode {sep : Char} (hsep : isWritten sep = false) (s : List Char) :
    sep ∉ encode s := by
  intro hmem
  rw [isWritten_encode hmem] at hsep
  cases hsep

end Form
end Audience
