/-!
# SHA-256

The message is padded to blocks of sixteen words.  Each block is stretched to a schedule of
64 words, which are mixed one after another into eight working words; the outcome is added
to the eight words of the state.

The state is a structure of eight words, so a digest has 32 bytes by construction.
-/

namespace Audience
namespace Report
namespace Digest

structure State where
  a : UInt32
  b : UInt32
  c : UInt32
  d : UInt32
  e : UInt32
  f : UInt32
  g : UInt32
  h : UInt32
  deriving DecidableEq, Repr

def initial : State :=
  ⟨0x6a09e667, 0xbb67ae85, 0x3c6ef372, 0xa54ff53a,
    0x510e527f, 0x9b05688c, 0x1f83d9ab, 0x5be0cd19⟩

def roundConstants : List UInt32 :=
    [ 0x428a2f98, 0x71374491, 0xb5c0fbcf, 0xe9b5dba5, 0x3956c25b, 0x59f111f1,
      0x923f82a4, 0xab1c5ed5, 0xd807aa98, 0x12835b01, 0x243185be, 0x550c7dc3,
      0x72be5d74, 0x80deb1fe, 0x9bdc06a7, 0xc19bf174, 0xe49b69c1, 0xefbe4786,
      0x0fc19dc6, 0x240ca1cc, 0x2de92c6f, 0x4a7484aa, 0x5cb0a9dc, 0x76f988da,
      0x983e5152, 0xa831c66d, 0xb00327c8, 0xbf597fc7, 0xc6e00bf3, 0xd5a79147,
      0x06ca6351, 0x14292967, 0x27b70a85, 0x2e1b2138, 0x4d2c6dfc, 0x53380d13,
      0x650a7354, 0x766a0abb, 0x81c2c92e, 0x92722c85, 0xa2bfe8a1, 0xa81a664b,
      0xc24b8b70, 0xc76c51a3, 0xd192e819, 0xd6990624, 0xf40e3585, 0x106aa070,
      0x19a4c116, 0x1e376c08, 0x2748774c, 0x34b0bcb5, 0x391c0cb3, 0x4ed8aa4a,
      0x5b9cca4f, 0x682e6ff3, 0x748f82ee, 0x78a5636f, 0x84c87814, 0x8cc70208,
      0x90befffa, 0xa4506ceb, 0xbef9a3f7, 0xc67178f2 ]

def turned (n : UInt32) (x : UInt32) : UInt32 :=
  (x >>> n) ||| (x <<< (32 - n))

/-- The words of a message, four bytes to a word; a last word may be cut short. -/
def wordsOf : List UInt8 -> List UInt32
  | a :: b :: c :: d :: rest =>
      ((a.toUInt32 <<< 24) ||| (b.toUInt32 <<< 16) ||| (c.toUInt32 <<< 8) ||| d.toUInt32) ::
        wordsOf rest
  | _ => []

def bigEndian : Nat -> Nat -> List UInt8
  | 0, _ => []
  | count + 1, n => bigEndian count (n / 256) ++ [UInt8.ofNat (n % 256)]

/-- A message with a one bit, zeros and its length in bits behind it, in whole blocks. -/
def padded (message : List UInt8) : List UInt8 :=
  let zeros := (119 - message.length % 64) % 64
  message ++ 0x80 :: List.replicate zeros 0 ++ bigEndian 8 (8 * message.length)

def stretchedOnce (words : List UInt32) : List UInt32 :=
  let back (n : Nat) : UInt32 := words.getD (n - 1) 0
  let older := turned 7 (back 15) ^^^ turned 18 (back 15) ^^^ (back 15 >>> 3)
  let newer := turned 17 (back 2) ^^^ turned 19 (back 2) ^^^ (back 2 >>> 10)
  (back 16 + older + back 7 + newer) :: words

def schedule (block : List UInt32) : List UInt32 :=
  ((List.range 48).foldl (fun words _ => stretchedOnce words) block.reverse).reverse

def mixed (s : State) (word : UInt32 × UInt32) : State :=
  let sumE := turned 6 s.e ^^^ turned 11 s.e ^^^ turned 25 s.e
  let choice := (s.e &&& s.f) ^^^ ((~~~s.e) &&& s.g)
  let first := s.h + sumE + choice + word.1 + word.2
  let sumA := turned 2 s.a ^^^ turned 13 s.a ^^^ turned 22 s.a
  let majority := (s.a &&& s.b) ^^^ (s.a &&& s.c) ^^^ (s.b &&& s.c)
  ⟨first + (sumA + majority), s.a, s.b, s.c, s.d + first, s.e, s.f, s.g⟩

def State.add (s t : State) : State :=
  ⟨s.a + t.a, s.b + t.b, s.c + t.c, s.d + t.d, s.e + t.e, s.f + t.f, s.g + t.g, s.h + t.h⟩

def afterBlock (s : State) (block : List UInt32) : State :=
  s.add ((roundConstants.zip (schedule block)).foldl mixed s)

def afterWords (s : State) (words : List UInt32) : State :=
  if _short : words.length < 16 then s
  else afterWords (afterBlock s (words.take 16)) (words.drop 16)
termination_by words.length
decreasing_by
  simp
  omega

def State.words (s : State) : List UInt32 :=
  [s.a, s.b, s.c, s.d, s.e, s.f, s.g, s.h]

def sha256 (message : List UInt8) : List UInt8 :=
  (afterWords initial (wordsOf (padded message))).words.flatMap fun word =>
    bigEndian 4 word.toNat

def hexDigit (n : Nat) : Char :=
  Char.ofNat (if n < 10 then 0x30 + n else 0x57 + n)

def hex (bytes : List UInt8) : List Char :=
  bytes.flatMap fun b => [hexDigit (b.toNat / 16), hexDigit (b.toNat % 16)]

end Digest
end Report
end Audience
