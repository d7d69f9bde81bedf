/-!
# Characters as bytes

A character is written as one to four bytes.  Reading never fails: every longest
run of bytes that begins a character without completing it, and every byte that
begins none, is read as the replacement character.
-/

namespace Audience
namespace Text

def bytesOf (s : List Char) : List UInt8 :=
  s.flatMap String.utf8EncodeChar

/-- What a lead byte asks for: the bits it contributes, and the least and greatest
value of each byte that follows. -/
structure Lead where
  bits : Nat
  tails : List (Nat × Nat)

/-- The lead bytes.  The range of the first tail keeps out overlong forms, surrogates
and numbers past the last character. -/
def lead? (b : Nat) : Option Lead :=
  let tail := (0x80, 0xBF)
  if b < 0x80 then some ⟨b, []⟩
  else if b < 0xC2 then none
  else if b < 0xE0 then some ⟨b - 0xC0, [tail]⟩
  else if b == 0xE0 then some ⟨0, [(0xA0, 0xBF), tail]⟩
  else if b == 0xED then some ⟨0xD, [(0x80, 0x9F), tail]⟩
  else if b < 0xF0 then some ⟨b - 0xE0, [tail, tail]⟩
  else if b == 0xF0 then some ⟨0, [(0x90, 0xBF), tail, tail]⟩
  else if b < 0xF4 then some ⟨b - 0xF0, [tail, tail, tail]⟩
  else if b == 0xF4 then some ⟨4, [(0x80, 0x8F), tail, tail]⟩
  else none

def replacement : Char := '\uFFFD'

/-- The character completed by the tails, or the replacement character as soon as a byte
is out of range; the bytes not used up are left. -/
def readTails : Nat -> List (Nat × Nat) -> List UInt8 -> Char × List UInt8
  | bits, [], rest => (Char.ofNat bits, rest)
  | _, _ :: _, [] => (replacement, [])
  | bits, (low, high) :: tails, b :: rest =>
      if low <= b.toNat && b.toNat <= high then
        readTails (bits * 64 + (b.toNat - 0x80)) tails rest
      else
        (replacement, b :: rest)

private theorem readTails_length (bits : Nat) (tails : List (Nat × Nat)) (bytes : List UInt8) :
    (readTails bits tails bytes).2.length <= bytes.length := by
  induction tails generalizing bits bytes with
  | nil => simp [readTails]
  | cons range tails ih =>
      obtain ⟨low, high⟩ := range
      cases bytes with
      | nil => simp [readTails]
      | cons b rest =>
          unfold readTails
          split
          · exact Nat.le_trans (ih _ rest) (by simp)
          · simp

def textOf : List UInt8 -> List Char
  | [] => []
  | b :: rest =>
      match lead? b.toNat with
      | none => replacement :: textOf rest
      | some lead =>
          (readTails lead.bits lead.tails rest).1 ::
            textOf (readTails lead.bits lead.tails rest).2
termination_by bytes => bytes.length
decreasing_by
  · simp
  · have := readTails_length lead.bits lead.tails rest
    simp
    omega

end Text
end Audience
