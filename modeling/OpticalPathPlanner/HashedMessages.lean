import OpticalPathPlanner.Sha256

/-!
# Hashed messages

The code's words, schedule and rounds are those of the standard, and a hasher
that was fed a message in pieces has absorbed it: its state is the chaining
value over the whole blocks and its buffer begins with the bytes left over.
-/

namespace OpticalPathPlanner

open SecureHash BlockHashing ByteReaders

variable {block schedule bytes message rest : List UInt8}

/-! ### Words -/

theorem toBitVec_rotateRight {value count : UInt32} (positive : 0 < count.toNat)
    (bound : count.toNat < 32) :
    (rotateRight value count).toBitVec = value.toBitVec.rotateRight count.toNat := by
  have left : (32 - count).toNat % 32 = 32 - count.toNat := by
    rw [UInt32.toNat_sub_of_le _ _ (UInt32.le_iff_toNat_le.mpr bound.le)]
    change (32 - count.toNat) % 32 = _
    omega
  rw [rotateRight, BitVec.rotateRight_def, Nat.mod_eq_of_lt bound,
    UInt32.toBitVec_or, UInt32.toBitVec_shiftRight, UInt32.toBitVec_shiftLeft,
    BitVec.shiftLeft_eq', BitVec.ushiftRight_eq', BitVec.toNat_umod,
    BitVec.toNat_umod]
  change value.toBitVec >>> (count.toNat % 32) |||
    value.toBitVec <<< ((32 - count).toNat % 32) = _
  rw [left, Nat.mod_eq_of_lt bound]

theorem toBitVec_lowerSigma0 (x : UInt32) :
    (rotateRight x 7 ^^^ rotateRight x 18 ^^^ (x >>> 3)).toBitVec =
      lowerSigma0 x.toBitVec := by
  rw [UInt32.toBitVec_xor, UInt32.toBitVec_xor,
    toBitVec_rotateRight (by decide) (by decide),
    toBitVec_rotateRight (by decide) (by decide)]
  rfl

theorem toBitVec_lowerSigma1 (x : UInt32) :
    (rotateRight x 17 ^^^ rotateRight x 19 ^^^ (x >>> 10)).toBitVec =
      lowerSigma1 x.toBitVec := by
  rw [UInt32.toBitVec_xor, UInt32.toBitVec_xor,
    toBitVec_rotateRight (by decide) (by decide),
    toBitVec_rotateRight (by decide) (by decide)]
  rfl

theorem toBitVec_upperSigma0 (x : UInt32) :
    (rotateRight x 2 ^^^ rotateRight x 13 ^^^ rotateRight x 22).toBitVec =
      upperSigma0 x.toBitVec := by
  rw [UInt32.toBitVec_xor, UInt32.toBitVec_xor,
    toBitVec_rotateRight (by decide) (by decide),
    toBitVec_rotateRight (by decide) (by decide),
    toBitVec_rotateRight (by decide) (by decide)]
  rfl

theorem toBitVec_upperSigma1 (x : UInt32) :
    (rotateRight x 6 ^^^ rotateRight x 11 ^^^ rotateRight x 25).toBitVec =
      upperSigma1 x.toBitVec := by
  rw [UInt32.toBitVec_xor, UInt32.toBitVec_xor,
    toBitVec_rotateRight (by decide) (by decide),
    toBitVec_rotateRight (by decide) (by decide),
    toBitVec_rotateRight (by decide) (by decide)]
  rfl

theorem toNat_shiftedByte {byte : BitVec 8} {count : Nat} (bound : count ≤ 24) :
    (byte.setWidth 32 <<< count).toNat = byte.toNat <<< count := by
  have small : byte.toNat * 2 ^ count < 2 ^ 8 * 2 ^ 24 :=
    Nat.mul_lt_mul_of_lt_of_le byte.isLt
      (Nat.pow_le_pow_right (by decide) bound) (by positivity)
  have fits : byte.toNat < 2 ^ 32 := by omega
  rw [BitVec.toNat_shiftLeft, BitVec.toNat_setWidth, Nat.mod_eq_of_lt fits,
    Nat.shiftLeft_eq]
  exact Nat.mod_eq_of_lt small

/-- Shifting bytes into their places puts them one behind the other. -/
theorem shiftedBytes_eq_append (first second third fourth : BitVec 8) :
    first.setWidth 32 <<< 24 ||| second.setWidth 32 <<< 16 |||
        third.setWidth 32 <<< 8 ||| fourth.setWidth 32 =
      first ++ second ++ third ++ fourth := by
  apply BitVec.eq_of_toNat_eq
  refine Eq.trans ?_ (BitVec.toNat_append (first ++ second ++ third) fourth).symm
  rw [BitVec.toNat_append (first ++ second) third, BitVec.toNat_append first second,
    Nat.shiftLeft_or_distrib, Nat.shiftLeft_or_distrib, Nat.shiftLeft_or_distrib,
    ← Nat.shiftLeft_add, ← Nat.shiftLeft_add, ← Nat.shiftLeft_add,
    BitVec.toNat_or, BitVec.toNat_or, BitVec.toNat_or,
    toNat_shiftedByte (by decide), toNat_shiftedByte (by decide),
    toNat_shiftedByte (by decide), BitVec.toNat_setWidth_of_le (by decide)]

theorem toBitVec_loadWord (i : Nat) :
    (Sha256.loadWord block i).toBitVec = wordAt block (4 * i) := by
  rw [Sha256.loadWord, wordAt, Nat.mul_comm 4]
  exact shiftedBytes_eq_append _ _ _ _

/-! ### The schedule -/

/-- A schedule written as far as the standard's. -/
def ScheduledFrom (block : List UInt8) (schedule : List UInt32) : Prop :=
  16 ≤ schedule.length ∧ ∀ t < schedule.length,
    (schedule.getD t 0).toBitVec =
      SecureHash.schedule (fun j => wordAt block (4 * j)) t

theorem toBitVec_nextSchedule {schedule : List UInt32}
    (scheduled : ScheduledFrom block schedule) :
    (Sha256.nextSchedule schedule).toBitVec =
      SecureHash.schedule (fun j => wordAt block (4 * j)) schedule.length := by
  obtain ⟨started, written⟩ := scheduled
  rw [SecureHash.schedule, if_neg (by omega), ← written _ (by omega),
    ← written _ (by omega), ← written _ (by omega), ← written _ (by omega),
    Sha256.nextSchedule, UInt32.toBitVec_add, UInt32.toBitVec_add,
    UInt32.toBitVec_add, toBitVec_lowerSigma0, toBitVec_lowerSigma1]
  ac_rfl

theorem ScheduledFrom.extend {schedule : List UInt32}
    (scheduled : ScheduledFrom block schedule) (count : Nat) :
    ScheduledFrom block (Sha256.extendSchedule count schedule) ∧
      (Sha256.extendSchedule count schedule).length = schedule.length + count := by
  induction count generalizing schedule with
  | zero => exact ⟨scheduled, rfl⟩
  | succ count ih =>
      have next := toBitVec_nextSchedule scheduled
      obtain ⟨started, written⟩ := scheduled
      have longer : ScheduledFrom block
          (schedule ++ [Sha256.nextSchedule schedule]) := by
        refine ⟨by rw [List.length_append]; omega, ?_⟩
        intro t within
        rw [List.length_append, List.length_singleton] at within
        rcases Nat.lt_succ_iff_lt_or_eq.mp within with before | rfl
        · rw [List.getD_append _ _ _ _ before]
          exact written t before
        · rw [List.getD_append_right _ _ _ _ le_rfl, Nat.sub_self]
          exact next
      obtain ⟨extended, length⟩ := ih longer
      refine ⟨extended, ?_⟩
      rw [Sha256.extendSchedule, length, List.length_append, List.length_singleton]
      omega

variable (block) in
theorem scheduledFrom_messageSchedule :
    ScheduledFrom block (Sha256.messageSchedule block) ∧
      (Sha256.messageSchedule block).length = 64 := by
  have start : ScheduledFrom block ((List.range 16).map (Sha256.loadWord block)) := by
    refine ⟨by simp, ?_⟩
    intro t within
    rw [List.length_map, List.length_range] at within
    rw [SecureHash.schedule, if_pos within, ← toBitVec_loadWord]
    simp [within]
  obtain ⟨scheduled, length⟩ := start.extend 48
  exact ⟨scheduled, by simpa [Sha256.messageSchedule] using length⟩

/-! ### Rounds -/

theorem kRoundConstants_eq :
    kRoundConstants.map UInt32.toBitVec = primes.map (rootFraction 3) := by
  decide +kernel

theorem toBitVec_kRoundConstants {t : Nat} (within : t < 64) :
    (kRoundConstants.getD t 0).toBitVec = roundConstant t := by
  have listed : t < kRoundConstants.length := within
  have prime : t < primes.length := by
    have lengths := congrArg List.length kRoundConstants_eq
    rw [List.length_map, List.length_map] at lengths
    omega
  have same := congrArg (fun words : List Word => words[t]?) kRoundConstants_eq
  simp only [List.getElem?_map, List.getElem?_eq_getElem listed,
    List.getElem?_eq_getElem prime, Option.map_some, Option.some.injEq] at same
  rw [roundConstant, List.getD_eq_getElem _ _ listed, List.getD_eq_getElem _ _ prime]
  exact same

theorem words_compressRound (schedule : List UInt32) (v : WorkingState) (i : Nat) :
    (Sha256.compressRound schedule v i).words =
      SecureHash.round (kRoundConstants.getD i 0).toBitVec (schedule.getD i 0).toBitVec
        v.words := by
  simp only [Sha256.compressRound, WorkingState.words, SecureHash.round,
    UInt32.toBitVec_add, toBitVec_upperSigma0, toBitVec_upperSigma1]
  rfl

variable (block) in
theorem words_compressRounds (v : WorkingState) (count : Nat) (bound : count ≤ 64) :
    ((List.range count).foldl
        (Sha256.compressRound (Sha256.messageSchedule block)) v).words =
      rounds (SecureHash.schedule fun j => wordAt block (4 * j)) v.words count := by
  induction count with
  | zero => rfl
  | succ count ih =>
      obtain ⟨⟨_, written⟩, length⟩ := scheduledFrom_messageSchedule block
      rw [List.range_succ, List.foldl_append, List.foldl_cons, List.foldl_nil,
        words_compressRound, ih (by omega), toBitVec_kRoundConstants (by omega),
        written count (by omega), rounds]

theorem stateWords_addWorking (state : Vector UInt32 8) (v : WorkingState) :
    stateWords (Sha256.addWorking state v) = v.words.add (stateWords state) := by
  rw [Words.add, Words.mk.injEq]
  exact ⟨BitVec.add_comm _ _, BitVec.add_comm _ _, BitVec.add_comm _ _,
    BitVec.add_comm _ _, BitVec.add_comm _ _, BitVec.add_comm _ _,
    BitVec.add_comm _ _, BitVec.add_comm _ _⟩

theorem stateWords_compressState (state : Vector UInt32 8) :
    stateWords (Sha256.compressState state block) =
      compress (stateWords state) block := by
  rw [Sha256.compressState, stateWords_addWorking,
    words_compressRounds block _ _ le_rfl]
  rfl

theorem stateWords_initial : stateWords ({} : Sha256).state = initialHash := by
  decide +kernel

/-! ### Numbers as bytes -/

theorem toNat_maskedByte (value : UInt64) {count : Nat} (bound : count < 64) :
    ((value >>> UInt64.ofNat count) &&& 0xff).toUInt8.toNat =
      value.toNat / 2 ^ count % 256 := by
  have mask : (0xff : UInt64).toNat = 2 ^ 8 - 1 := rfl
  have shift : (UInt64.ofNat count).toNat % 64 = count := by
    rw [UInt64.toNat_ofNat']
    omega
  rw [UInt64.toNat_toUInt8, UInt64.toNat_and, UInt64.toNat_shiftRight, shift, mask,
    Nat.and_two_pow_sub_one_eq_mod, Nat.shiftRight_eq_div_pow]
  omega

theorem lengthBytes_eq (bitLength : UInt64) :
    Sha256.lengthBytes bitLength = bigEndian 8 bitLength.toNat := by
  rw [Sha256.lengthBytes, bigEndian]
  refine List.map_congr_left ?_
  intro place within
  rw [List.mem_range] at within
  have exponent : 256 ^ (8 - 1 - place) = 2 ^ (56 - 8 * place) := by
    rw [show 256 = 2 ^ 8 from rfl, ← Nat.pow_mul]
    congr 1
    omega
  apply UInt8.toNat.inj
  rw [toNat_maskedByte _ (by omega), UInt8.toNat_ofNat', exponent]

theorem ofLittleEndian_wordBytes (word : UInt32) :
    ofLittleEndian (Sha256.wordBytes word).reverse = word.toNat := by
  have bound := word.toNat_lt
  have mask (number : Nat) : number &&& 255 = number % 256 :=
    Nat.and_two_pow_sub_one_eq_mod number 8
  simp only [Sha256.wordBytes, List.reverse_cons, List.reverse_nil,
    List.nil_append, List.cons_append, ofLittleEndian, UInt32.toNat_toUInt8,
    UInt32.toNat_and, UInt32.toNat_shiftRight, UInt32.reduceToNat, mask,
    Nat.shiftRight_eq_div_pow, Nat.reduceMod, Nat.reducePow]
  omega

/-- One more word multiplies the number spelled so far. -/
theorem ofLittleEndian_flatMap_wordBytes (words : List UInt32) (word : UInt32) :
    ofLittleEndian ((words ++ [word]).flatMap Sha256.wordBytes).reverse =
      2 ^ 32 * ofLittleEndian (words.flatMap Sha256.wordBytes).reverse +
        word.toNat := by
  have length : (Sha256.wordBytes word).reverse.length = 4 := rfl
  rw [List.flatMap_append, List.reverse_append, ofLittleEndian_append,
    List.flatMap_singleton, ofLittleEndian_wordBytes, length, Nat.add_comm]
  norm_num

theorem ofBytes_flatMap_wordBytes (state : Vector UInt32 8) :
    Digest256.ofBytes (state.toList.flatMap Sha256.wordBytes) =
      ⟨(stateWords state).bits⟩ := by
  have listed : state.toList = [] ++ [state[0]] ++ [state[1]] ++ [state[2]] ++
      [state[3]] ++ [state[4]] ++ [state[5]] ++ [state[6]] ++ [state[7]] := by
    apply List.ext_getElem
    · simp
    · intro place within _
      rw [Vector.length_toList] at within
      interval_cases place <;> simp
  have nothing :
      2 ^ 32 * ofLittleEndian (([] : List UInt32).flatMap Sha256.wordBytes).reverse =
        0 := rfl
  have spelled : ofLittleEndian (state.toList.flatMap Sha256.wordBytes).reverse =
      (stateWords state).bits.toNat := by
    rw [listed]
    simp only [ofLittleEndian_flatMap_wordBytes]
    rw [nothing, Nat.zero_add, Words.toNat_bits]
    rfl
  rw [Digest256.ofBytes, spelled, BitVec.ofNat_toNat, BitVec.setWidth_eq]

end OpticalPathPlanner
