import OpticalPathPlanner.Identifiers

/-!
# Spectrum slots

A slot mask is a set of at most 256 slots, held here as one 256-bit word
where the source uses four 64-bit words.  The planner never tracks channels
themselves: it tracks the set of slots at which a channel of the requested
width may start.
-/

namespace OpticalPathPlanner

inductive GridKind
  | fixed50GHz
  | flex12_5GHz
deriving DecidableEq, Repr

def kMaxSpectrumSlots : Nat := 256

structure SpectrumModel where
  grid : GridKind := .fixed50GHz
  slotCount : Nat := 96
deriving DecidableEq, Repr

def SpectrumModel.validate (model : SpectrumModel) : Status :=
  if model.slotCount = 0 then
    failure .invalidArgument
      (text "spectrum model must declare at least one slot")
  else if model.slotCount > kMaxSpectrumSlots then
    failure .limitExceeded (text "spectrum model declares " ++
      formatU64 model.slotCount ++
      text " slots, above the supported maximum of " ++
      formatU64 kMaxSpectrumSlots)
  else
    okStatus

/-- A fixed-capacity bit set over spectrum slots. -/
structure SlotMask where
  bits : BitVec 256
deriving DecidableEq, Repr, Inhabited

namespace SlotMask

def none : SlotMask := ⟨0⟩

def test (mask : SlotMask) (index : Nat) : Bool := mask.bits.getLsbD index

def set (mask : SlotMask) (index : Nat) : SlotMask :=
  if index ≥ kMaxSpectrumSlots then mask
  else ⟨mask.bits ||| (1#256 <<< index)⟩

def reset (mask : SlotMask) (index : Nat) : SlotMask :=
  if index ≥ kMaxSpectrumSlots then mask
  else ⟨mask.bits &&& ~~~(1#256 <<< index)⟩

/-- The slots below the slot count. -/
def all (slotCount : Nat) : SlotMask :=
  (List.range (min slotCount kMaxSpectrumSlots)).foldl set none

def intersect (first second : SlotMask) : SlotMask :=
  ⟨first.bits &&& second.bits⟩

def isEmpty (mask : SlotMask) : Bool := mask.bits == 0

def isSubsetOf (first second : SlotMask) : Bool :=
  first.bits &&& ~~~second.bits == 0

/-- The lowest set slot, which is the channel selection rule. -/
def lowestSetBit (mask : SlotMask) : Option Nat :=
  (List.range kMaxSpectrumSlots).find? mask.test

/-- Starting slots of the runs of `width` slots that lie inside the mask. -/
def firstSlotMask (mask : SlotMask) (width : Nat) : SlotMask :=
  if width = 0 ∨ width > kMaxSpectrumSlots then none
  else
    (List.range (kMaxSpectrumSlots - width + 1)).foldl
      (fun result start =>
        if (List.range width).all (fun offset => mask.test (start + offset))
        then result.set start else result)
      none

/-- The blocked slots removed from the declared model. -/
def removeBlocked (slotCount : Nat) (blocked : SlotMask) : SlotMask :=
  (List.range slotCount).foldl
    (fun usable slot => if blocked.test slot then usable.reset slot else usable)
    (all slotCount)

/-- Digit of the lower-case table. -/
def hexDigit (value : Nat) : UInt8 :=
  if value < 10 then UInt8.ofNat (48 + value) else UInt8.ofNat (87 + value)

/-- Sixty-four hex digits, most significant first. -/
def toHex (mask : SlotMask) : Bytes :=
  (List.range 64).map fun position =>
    hexDigit (mask.bits.toNat / 16 ^ (63 - position) % 16)

end SlotMask

structure Channel where
  firstSlot : Nat
  widthSlots : Nat
deriving DecidableEq, Repr

/-! ### What the operations do to single slots -/

namespace SlotMask

@[ext]
theorem ext_test {first second : SlotMask}
    (slots : ∀ slot < 256, first.test slot = second.test slot) :
    first = second := by
  cases first with
  | mk firstBits =>
    cases second with
    | mk secondBits =>
      congr 1
      exact BitVec.eq_of_getLsbD_eq fun slot inRange => slots slot inRange

theorem test_eq_false_of_le {mask : SlotMask} {slot : Nat}
    (outside : 256 ≤ slot) : mask.test slot = false :=
  BitVec.getLsbD_of_ge mask.bits slot outside

@[simp]
theorem test_none (slot : Nat) : none.test slot = false := by
  simp [none, test]

@[simp]
theorem test_intersect (first second : SlotMask) (slot : Nat) :
    (first.intersect second).test slot =
      (first.test slot && second.test slot) := by
  simp [intersect, test]

theorem test_set (mask : SlotMask) (index slot : Nat) :
    (mask.set index).test slot =
      (mask.test slot || decide (slot = index ∧ index < 256)) := by
  unfold set kMaxSpectrumSlots test
  split_ifs with outside
  · have : ¬ index < 256 := by omega
    simp [this]
  · rw [BitVec.getLsbD_or, BitVec.getLsbD_shiftLeft, BitVec.getLsbD_one]
    congr 1
    rw [Bool.eq_iff_iff]
    simp
    omega

theorem test_reset (mask : SlotMask) (index slot : Nat) :
    (mask.reset index).test slot = (mask.test slot && decide (slot ≠ index)) := by
  unfold reset kMaxSpectrumSlots
  split_ifs with outside
  · by_cases equal : slot = index
    · subst equal
      simp [test_eq_false_of_le outside]
    · simp [equal]
  · unfold test
    rw [BitVec.getLsbD_and, BitVec.getLsbD_not, BitVec.getLsbD_shiftLeft,
      BitVec.getLsbD_one]
    by_cases inRange : slot < 256
    · congr 1
      rw [Bool.eq_iff_iff]
      simp [inRange]
      omega
    · simp [BitVec.getLsbD_of_ge mask.bits slot (by omega)]

theorem isEmpty_iff (mask : SlotMask) :
    mask.isEmpty = true ↔ ∀ slot, mask.test slot = false := by
  unfold isEmpty
  rw [beq_iff_eq]
  constructor
  · intro zero slot
    simp [test, zero]
  · intro clear
    exact BitVec.eq_of_getLsbD_eq fun slot _ => by simpa [test] using clear slot

theorem isSubsetOf_iff (first second : SlotMask) :
    first.isSubsetOf second = true ↔
      ∀ slot, first.test slot = true → second.test slot = true := by
  unfold isSubsetOf
  rw [beq_iff_eq]
  constructor
  · intro zero slot inFirst
    have inRange : slot < 256 := by
      by_contra outside
      simp [test_eq_false_of_le (Nat.le_of_not_lt outside)] at inFirst
    have bit := congrArg (fun word => BitVec.getLsbD word slot) zero
    simp only [BitVec.getLsbD_and, BitVec.getLsbD_not, inRange, decide_true,
      Bool.true_and] at bit
    unfold test at inFirst ⊢
    simpa [inFirst] using bit
  · intro included
    apply BitVec.eq_of_getLsbD_eq
    intro slot inRange
    have slotIncluded := included slot
    unfold test at slotIncluded
    rw [BitVec.getLsbD_and, BitVec.getLsbD_not]
    cases inFirst : first.bits.getLsbD slot with
    | false => simp
    | true => simp [slotIncluded inFirst]

/-- The lowest set bit is a set slot below every other set slot. -/
theorem lowestSetBit_eq_some_iff (mask : SlotMask) (slot : Nat) :
    mask.lowestSetBit = some slot ↔
      mask.test slot = true ∧ ∀ lower < slot, mask.test lower = false := by
  unfold lowestSetBit kMaxSpectrumSlots
  rw [List.find?_range_eq_some]
  constructor
  · rintro ⟨isSet, _, lowest⟩
    exact ⟨isSet, fun lower lowerLt => by simpa using lowest lower lowerLt⟩
  · rintro ⟨isSet, lowest⟩
    refine ⟨isSet, ?_, fun lower lowerLt => by simpa using lowest lower lowerLt⟩
    by_contra outside
    simp only [List.mem_range, Nat.not_lt] at outside
    simp [test_eq_false_of_le outside] at isSet

theorem lowestSetBit_eq_none_iff (mask : SlotMask) :
    mask.lowestSetBit = Option.none ↔ mask.isEmpty = true := by
  rw [isEmpty_iff]
  unfold lowestSetBit kMaxSpectrumSlots
  rw [List.find?_eq_none]
  constructor
  · intro clear slot
    by_cases inRange : slot < 256
    · simpa using clear slot (List.mem_range.mpr inRange)
    · exact test_eq_false_of_le (Nat.le_of_not_lt inRange)
  · intro clear slot _
    simp [clear slot]

/-! ### What the masks of a model hold -/

theorem test_foldl_set (slots : List Nat) (mask : SlotMask) (slot : Nat) :
    (slots.foldl set mask).test slot =
      (mask.test slot || decide (slot ∈ slots ∧ slot < 256)) := by
  induction slots generalizing mask with
  | nil => simp
  | cons first rest ih =>
      rw [List.foldl_cons, ih, test_set, Bool.or_assoc]
      congr 1
      rw [Bool.eq_iff_iff]
      simp only [Bool.or_eq_true, decide_eq_true_eq, List.mem_cons]
      constructor
      · rintro (⟨rfl, inRange⟩ | ⟨member, inRange⟩)
        · exact ⟨.inl rfl, inRange⟩
        · exact ⟨.inr member, inRange⟩
      · rintro ⟨rfl | member, inRange⟩
        · exact .inl ⟨rfl, inRange⟩
        · exact .inr ⟨member, inRange⟩

@[simp]
theorem test_all (slotCount slot : Nat) :
    (all slotCount).test slot = decide (slot < slotCount ∧ slot < 256) := by
  unfold all kMaxSpectrumSlots
  rw [test_foldl_set, test_none, Bool.false_or]
  rw [Bool.eq_iff_iff]
  simp only [List.mem_range, decide_eq_true_eq]
  omega

theorem test_removeBlocked (slotCount : Nat) (blocked : SlotMask) (slot : Nat) :
    (removeBlocked slotCount blocked).test slot =
      (decide (slot < slotCount ∧ slot < 256) && !blocked.test slot) := by
  have removed (slots : List Nat) (mask : SlotMask) :
      (slots.foldl (fun usable slot =>
          if blocked.test slot then usable.reset slot else usable) mask).test slot =
        (mask.test slot && !(decide (slot ∈ slots) && blocked.test slot)) := by
    induction slots generalizing mask with
    | nil => simp
    | cons first rest ih =>
        rw [List.foldl_cons, ih]
        by_cases same : slot = first
        · subst same
          split_ifs with isBlocked
          · simp [test_reset, isBlocked]
          · simp [isBlocked]
        · split_ifs with isBlocked
          · simp [test_reset, same]
          · simp [same]
  unfold removeBlocked
  rw [removed, test_all]
  by_cases inModel : slot < slotCount <;> simp [inModel]

/-- The starts of a mask are the windows that lie inside it. -/
theorem test_firstSlotMask (mask : SlotMask) (width slot : Nat) :
    (mask.firstSlotMask width).test slot = true ↔
      1 ≤ width ∧ slot + width ≤ 256 ∧
        ∀ offset < width, mask.test (slot + offset) = true := by
  have started (starts : List Nat) (result : SlotMask) :
      (starts.foldl (fun result start =>
          if (List.range width).all (fun offset => mask.test (start + offset))
          then result.set start else result) result).test slot = true ↔
        result.test slot = true ∨ (slot ∈ starts ∧ slot < 256 ∧
          ∀ offset < width, mask.test (slot + offset) = true) := by
    induction starts generalizing result with
    | nil => simp
    | cons first rest ih =>
        rw [List.foldl_cons, ih]
        split_ifs with inside
        · simp only [List.all_eq_true, List.mem_range] at inside
          rw [test_set, Bool.or_eq_true, decide_eq_true_eq, List.mem_cons]
          constructor
          · rintro ((set | ⟨rfl, inRange⟩) | ⟨member, started⟩)
            · exact .inl set
            · exact .inr ⟨.inl rfl, inRange, inside⟩
            · exact .inr ⟨.inr member, started⟩
          · rintro (set | ⟨rfl | member, inRange, started⟩)
            · exact .inl (.inl set)
            · exact .inl (.inr ⟨rfl, inRange⟩)
            · exact .inr ⟨member, inRange, started⟩
        · rw [List.mem_cons]
          constructor
          · exact Or.imp_right fun started => ⟨.inr started.1, started.2⟩
          · rintro (set | ⟨rfl | member, inRange, started⟩)
            · exact .inl set
            · refine (inside ?_).elim
              simpa using started
            · exact .inr ⟨member, inRange, started⟩
  unfold firstSlotMask kMaxSpectrumSlots
  split_ifs with outside
  · simp only [test_none, Bool.false_eq_true, false_iff, not_and]
    omega
  · rw [started, test_none]
    simp only [Bool.false_eq_true, false_or, List.mem_range]
    constructor
    · rintro ⟨inStarts, inRange, window⟩
      exact ⟨by omega, by omega, window⟩
    · rintro ⟨positive, fits, window⟩
      exact ⟨by omega, by omega, window⟩

end SlotMask

end OpticalPathPlanner
