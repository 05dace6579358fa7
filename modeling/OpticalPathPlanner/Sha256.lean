import OpticalPathPlanner.SecureHash
import OpticalPathPlanner.WireProtocol

/-!
# The hasher

The hasher reads a message in pieces.  Whole blocks are compressed as they
are read, the rest waits in a buffer that is not cleared between blocks.  The
digest is computed on a copy.
-/

namespace OpticalPathPlanner

/-! ### The code -/

def kBlockBytes : Nat := 64

def kRoundConstants : List UInt32 := [
  0x428a2f98, 0x71374491, 0xb5c0fbcf, 0xe9b5dba5, 0x3956c25b, 0x59f111f1,
  0x923f82a4, 0xab1c5ed5, 0xd807aa98, 0x12835b01, 0x243185be, 0x550c7dc3,
  0x72be5d74, 0x80deb1fe, 0x9bdc06a7, 0xc19bf174, 0xe49b69c1, 0xefbe4786,
  0x0fc19dc6, 0x240ca1cc, 0x2de92c6f, 0x4a7484aa, 0x5cb0a9dc, 0x76f988da,
  0x983e5152, 0xa831c66d, 0xb00327c8, 0xbf597fc7, 0xc6e00bf3, 0xd5a79147,
  0x06ca6351, 0x14292967, 0x27b70a85, 0x2e1b2138, 0x4d2c6dfc, 0x53380d13,
  0x650a7354, 0x766a0abb, 0x81c2c92e, 0x92722c85, 0xa2bfe8a1, 0xa81a664b,
  0xc24b8b70, 0xc76c51a3, 0xd192e819, 0xd6990624, 0xf40e3585, 0x106aa070,
  0x19a4c116, 0x1e376c08, 0x2748774c, 0x34b0bcb5, 0x391c0cb3, 0x4ed8aa4a,
  0x5b9cca4f, 0x682e6ff3, 0x748f82ee, 0x78a5636f, 0x84c87814, 0x8cc70208,
  0x90befffa, 0xa4506ceb, 0xbef9a3f7, 0xc67178f2]

def rotateRight (value count : UInt32) : UInt32 :=
  (value >>> count) ||| (value <<< (32 - count))

structure Sha256 where
  state : Vector UInt32 8 := #v[0x6a09e667, 0xbb67ae85, 0x3c6ef372, 0xa54ff53a,
    0x510e527f, 0x9b05688c, 0x1f83d9ab, 0x5be0cd19]
  buffer : Vector UInt8 kBlockBytes := .replicate kBlockBytes 0
  totalBytes : UInt64 := 0
  buffered : Nat := 0

/-- The locals of a compression. -/
structure WorkingState where
  (a b c d e f g h : UInt32)

namespace Sha256

/-- The big-endian word at a place of a block. -/
def loadWord (block : List UInt8) (i : Nat) : UInt32 :=
  ((block.getD (i * 4) 0).toUInt32 <<< 24) |||
    ((block.getD (i * 4 + 1) 0).toUInt32 <<< 16) |||
    ((block.getD (i * 4 + 2) 0).toUInt32 <<< 8) |||
    (block.getD (i * 4 + 3) 0).toUInt32

/-- The next entry of the schedule, from those written so far. -/
def nextSchedule (schedule : List UInt32) : UInt32 :=
  let i := schedule.length
  let w15 := schedule.getD (i - 15) 0
  let w2 := schedule.getD (i - 2) 0
  let s0 := rotateRight w15 7 ^^^ rotateRight w15 18 ^^^ (w15 >>> 3)
  let s1 := rotateRight w2 17 ^^^ rotateRight w2 19 ^^^ (w2 >>> 10)
  schedule.getD (i - 16) 0 + s0 + schedule.getD (i - 7) 0 + s1

def extendSchedule : Nat → List UInt32 → List UInt32
  | 0, schedule => schedule
  | count + 1, schedule =>
      extendSchedule count (schedule ++ [nextSchedule schedule])

def messageSchedule (block : List UInt8) : List UInt32 :=
  extendSchedule 48 ((List.range 16).map (loadWord block))

def compressRound (schedule : List UInt32) (v : WorkingState) (i : Nat) :
    WorkingState :=
  let s1 := rotateRight v.e 6 ^^^ rotateRight v.e 11 ^^^ rotateRight v.e 25
  let choose := (v.e &&& v.f) ^^^ (~~~v.e &&& v.g)
  let temp1 := v.h + s1 + choose + kRoundConstants.getD i 0 + schedule.getD i 0
  let s0 := rotateRight v.a 2 ^^^ rotateRight v.a 13 ^^^ rotateRight v.a 22
  let majority := (v.a &&& v.b) ^^^ (v.a &&& v.c) ^^^ (v.b &&& v.c)
  let temp2 := s0 + majority
  { a := temp1 + temp2, b := v.a, c := v.b, d := v.c,
    e := v.d + temp1, f := v.e, g := v.f, h := v.g }

def addWorking (state : Vector UInt32 8) (v : WorkingState) : Vector UInt32 8 :=
  #v[state[0] + v.a, state[1] + v.b, state[2] + v.c, state[3] + v.d,
    state[4] + v.e, state[5] + v.f, state[6] + v.g, state[7] + v.h]

def compressState (state : Vector UInt32 8) (block : List UInt8) :
    Vector UInt32 8 :=
  addWorking state ((List.range 64).foldl (compressRound (messageSchedule block))
    ⟨state[0], state[1], state[2], state[3], state[4], state[5], state[6],
      state[7]⟩)

def compress (hasher : Sha256) (block : List UInt8) : Sha256 :=
  { hasher with state := compressState hasher.state block }

/-- Append one byte to the buffer. -/
def store (hasher : Sha256) (byte : UInt8) : Sha256 :=
  { hasher with
    buffer := hasher.buffer.setIfInBounds hasher.buffered byte
    buffered := hasher.buffered + 1 }

/-- Fill the buffer, as far as the bytes go; the bytes not used are left. -/
def fill (hasher : Sha256) : List UInt8 → Sha256 × List UInt8
  | [] => (hasher, [])
  | byte :: rest =>
      if hasher.buffered < kBlockBytes then fill (hasher.store byte) rest
      else (hasher, byte :: rest)

/-- Compress whole blocks straight from the input, which is as long as the
first argument says at most. -/
def compressWhole : Nat → Sha256 → List UInt8 → Sha256 × List UInt8
  | 0, hasher, bytes => (hasher, bytes)
  | fuel + 1, hasher, bytes =>
      if kBlockBytes ≤ bytes.length then
        compressWhole fuel (hasher.compress (bytes.take kBlockBytes))
          (bytes.drop kBlockBytes)
      else (hasher, bytes)

/-- Complete a block that was begun by an earlier call. -/
def completeBlock (hasher : Sha256) (bytes : List UInt8) : Sha256 × List UInt8 :=
  if 0 < hasher.buffered then
    let filled := hasher.fill bytes
    if filled.1.buffered = kBlockBytes then
      ({ filled.1.compress filled.1.buffer.toList with buffered := 0 }, filled.2)
    else filled
  else (hasher, bytes)

def update (hasher : Sha256) (bytes : List UInt8) : Sha256 :=
  if bytes.length = 0 then hasher
  else
    let completed := completeBlock
      { hasher with
        totalBytes := hasher.totalBytes + UInt64.ofNat bytes.length } bytes
    let compressed := compressWhole completed.2.length completed.1 completed.2
    compressed.2.foldl store compressed.1

/-- Zero bytes until the length field ends the block; nothing when the given
number of them does not get there. -/
def padZeros : Nat → Sha256 → Option Sha256
  | 0, _ => none
  | fuel + 1, hasher =>
      if hasher.buffered = 56 then some hasher
      else padZeros fuel (hasher.update [0])

def lengthBytes (bitLength : UInt64) : List UInt8 :=
  (List.range 8).map fun i =>
    ((bitLength >>> UInt64.ofNat (56 - 8 * i)) &&& 0xff).toUInt8

def wordBytes (word : UInt32) : List UInt8 :=
  [((word >>> 24) &&& 0xff).toUInt8, ((word >>> 16) &&& 0xff).toUInt8,
    ((word >>> 8) &&& 0xff).toUInt8, (word &&& 0xff).toUInt8]

/-- The digest of what was read so far.  The hasher itself is not changed. -/
def finalize (hasher : Sha256) : Option Digest256 :=
  let bitLength := hasher.totalBytes * 8
  (padZeros kBlockBytes (hasher.update [0x80])).map fun copy =>
    Digest256.ofBytes
      ((copy.update (lengthBytes bitLength)).state.toList.flatMap wordBytes)

def reset (_ : Sha256) : Sha256 :=
  {}

def of (bytes : List UInt8) : Option Digest256 :=
  (({} : Sha256).update bytes).finalize

end Sha256

/-! ### The words of the standard -/

open SecureHash

/-- The locals of a compression as the standard's working variables. -/
def WorkingState.words (v : WorkingState) : Words :=
  ⟨v.a.toBitVec, v.b.toBitVec, v.c.toBitVec, v.d.toBitVec, v.e.toBitVec,
    v.f.toBitVec, v.g.toBitVec, v.h.toBitVec⟩

/-- The state of a hasher as a hash value. -/
def stateWords (state : Vector UInt32 8) : Words :=
  ⟨state[0].toBitVec, state[1].toBitVec, state[2].toBitVec, state[3].toBitVec,
    state[4].toBitVec, state[5].toBitVec, state[6].toBitVec, state[7].toBitVec⟩

end OpticalPathPlanner
