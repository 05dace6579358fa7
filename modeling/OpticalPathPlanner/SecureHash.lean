import Mathlib
import OpticalPathPlanner.BlockHashing

/-!
# SHA-256 as FIPS 180-4 defines it

The digest of a message of whole bytes.  The constants are not tabulated: they
are computed from the primes, as the standard introduces them.
-/

namespace SecureHash

open BlockHashing

abbrev Word := BitVec 32

/-! ### Functions on words -/

def ch (x y z : Word) : Word :=
  (x &&& y) ^^^ (~~~x &&& z)

def maj (x y z : Word) : Word :=
  (x &&& y) ^^^ (x &&& z) ^^^ (y &&& z)

def upperSigma0 (x : Word) : Word :=
  x.rotateRight 2 ^^^ x.rotateRight 13 ^^^ x.rotateRight 22

def upperSigma1 (x : Word) : Word :=
  x.rotateRight 6 ^^^ x.rotateRight 11 ^^^ x.rotateRight 25

def lowerSigma0 (x : Word) : Word :=
  x.rotateRight 7 ^^^ x.rotateRight 18 ^^^ (x >>> 3)

def lowerSigma1 (x : Word) : Word :=
  x.rotateRight 17 ^^^ x.rotateRight 19 ^^^ (x >>> 10)

/-! ### Constants -/

/-- A number from two on is the next prime when no earlier one divides it. -/
def addPrime (earlier : List Nat) (number : Nat) : List Nat :=
  if 2 ≤ number ∧ ∀ prime ∈ earlier, ¬ prime ∣ number then earlier ++ [number]
  else earlier

/-- The first sixty-four primes. -/
def primes : List Nat :=
  (List.range 312).foldl addPrime []

/-- The first thirty-two bits of the fractional part of a root. -/
def rootFraction (degree number : Nat) : Word :=
  BitVec.ofNat 32 (Nat.nthRoot degree (number * 2 ^ (32 * degree)))

/-- The constants of the rounds come from the cube roots of the primes. -/
def roundConstant (t : Nat) : Word :=
  rootFraction 3 (primes.getD t 0)

/-- Eight words: a hash value, or the working variables of its computation. -/
structure Words where
  (a b c d e f g h : Word)
deriving DecidableEq

/-- The initial hash value comes from the square roots of the first primes. -/
def initialHash : Words where
  a := rootFraction 2 2
  b := rootFraction 2 3
  c := rootFraction 2 5
  d := rootFraction 2 7
  e := rootFraction 2 11
  f := rootFraction 2 13
  g := rootFraction 2 17
  h := rootFraction 2 19

/-! ### Padding and parsing -/

/-- A number in a fixed count of bytes, the most significant first. -/
def bigEndian (width value : Nat) : List UInt8 :=
  (List.range width).map fun place =>
    UInt8.ofNat (value / 256 ^ (width - 1 - place))

/-- The fewest zero bytes after which the length field ends a block. -/
def zeroBytes (length : Nat) : Nat :=
  (119 - length % 64) % 64

/-- The message, a one bit, zero bits and the number of bits in the message. -/
def padded (message : List UInt8) : List UInt8 :=
  message ++ 0x80 :: (List.replicate (zeroBytes message.length) 0 ++
    bigEndian 8 (8 * message.length))

/-- The word that four bytes spell. -/
def wordAt (bytes : List UInt8) (place : Nat) : Word :=
  (bytes.getD place 0).toBitVec ++ (bytes.getD (place + 1) 0).toBitVec ++
    (bytes.getD (place + 2) 0).toBitVec ++ (bytes.getD (place + 3) 0).toBitVec

/-! ### Hash computation -/

def schedule (block : Nat → Word) (t : Nat) : Word :=
  if t < 16 then block t
  else
    lowerSigma1 (schedule block (t - 2)) + schedule block (t - 7) +
      lowerSigma0 (schedule block (t - 15)) + schedule block (t - 16)
termination_by t

def round (constant word : Word) (v : Words) : Words :=
  let t1 := v.h + upperSigma1 v.e + ch v.e v.f v.g + constant + word
  let t2 := upperSigma0 v.a + maj v.a v.b v.c
  { a := t1 + t2, b := v.a, c := v.b, d := v.c,
    e := v.d + t1, f := v.e, g := v.f, h := v.g }

def rounds (words : Nat → Word) (v : Words) : Nat → Words
  | 0 => v
  | t + 1 => round (roundConstant t) (words t) (rounds words v t)

def Words.add (v value : Words) : Words :=
  { a := v.a + value.a, b := v.b + value.b, c := v.c + value.c,
    d := v.d + value.d, e := v.e + value.e, f := v.f + value.f,
    g := v.g + value.g, h := v.h + value.h }

def compress (value : Words) (block : List UInt8) : Words :=
  (rounds (schedule fun j => wordAt block (4 * j)) value 64).add value

/-- The hash value after the blocks of the padded message. -/
def hashValue (message : List UInt8) : Words :=
  (List.range ((padded message).length / 64)).foldl (fun value index =>
    compress value (((padded message).drop (64 * index)).take 64)) initialHash

/-- The concatenation of eight words. -/
def Words.bits (v : Words) : BitVec 256 :=
  v.a ++ v.b ++ v.c ++ v.d ++ v.e ++ v.f ++ v.g ++ v.h

def digest (message : List UInt8) : BitVec 256 :=
  (hashValue message).bits

theorem toNat_append_word {width : Nat} (high : BitVec width) (word : Word) :
    (high ++ word).toNat = 2 ^ 32 * high.toNat + word.toNat := by
  rw [BitVec.toNat_append, ← Nat.shiftLeft_add_eq_or_of_lt word.isLt,
    Nat.shiftLeft_eq, Nat.mul_comm]

theorem Words.toNat_bits (v : Words) :
    v.bits.toNat =
      2 ^ 32 * (2 ^ 32 * (2 ^ 32 * (2 ^ 32 * (2 ^ 32 * (2 ^ 32 * (2 ^ 32 *
        v.a.toNat + v.b.toNat) + v.c.toNat) + v.d.toNat) + v.e.toNat) +
          v.f.toNat) + v.g.toNat) + v.h.toNat := by
  refine (toNat_append_word
    (v.a ++ v.b ++ v.c ++ v.d ++ v.e ++ v.f ++ v.g) v.h).trans ?_
  rw [toNat_append_word, toNat_append_word, toNat_append_word, toNat_append_word,
    toNat_append_word, toNat_append_word]

/-! ### The padded message in whole blocks -/

variable {length width value : Nat} {message : List UInt8}

theorem length_bigEndian : (bigEndian width value).length = width := by
  rw [bigEndian, List.length_map, List.length_range]

theorem zeroBytes_fill : (length + 1 + zeroBytes length) % 64 = 56 := by
  rw [zeroBytes]
  omega

theorem length_padded :
    (padded message).length = message.length + 1 + zeroBytes message.length + 8 := by
  rw [padded, List.length_append, List.length_cons, List.length_append,
    List.length_replicate, length_bigEndian]
  omega

theorem length_padded_mod : (padded message).length % 64 = 0 := by
  rw [length_padded]
  have fills : (message.length + 1 + zeroBytes message.length) % 64 = 56 :=
    zeroBytes_fill
  omega

/-- Reading the padded message as a stream leaves the hash value. -/
theorem absorb_padded :
    absorb 64 compress (initialHash, []) (padded message) =
      (hashValue message, []) := by
  have whole : 64 * ((padded message).length / 64) = (padded message).length :=
    Nat.mul_div_cancel' (Nat.dvd_of_mod_eq_zero length_padded_mod)
  have blocks : absorb 64 compress (initialHash, [])
      ((padded message).take (64 * ((padded message).length / 64))) =
        (hashValue message, []) :=
    absorb_blocks (by decide) _ (Nat.le_of_eq whole)
  rw [whole, List.take_length] at blocks
  exact blocks

end SecureHash
