import OpticalPathPlanner.Spectrum

/-!
# Slot masks in machine words

The slot mask as the runtime holds it, four words of 64 bits that are read and
written one word at a time.  Every operation is the one on the set of slots, and
so the windows of an intersection are the windows that all masks have.
-/

namespace OpticalPathPlanner

def kWords : Nat := (kMaxSpectrumSlots + 63) / 64

instance : NeZero kWords := ⟨by decide⟩

/-- A slot mask in machine words, lowest slots first. -/
@[ext]
structure SlotWords where
  words : Fin kWords → BitVec 64
deriving DecidableEq

namespace SlotWords

/-- The word of a slot. -/
def wordOf (index : Nat) (inRange : index < kMaxSpectrumSlots) : Fin kWords :=
  ⟨index / 64, by unfold kWords kMaxSpectrumSlots at *; omega⟩

def none : SlotWords := ⟨fun _ => 0⟩

def set (mask : SlotWords) (index : Nat) : SlotWords :=
  if inRange : index < kMaxSpectrumSlots then
    ⟨Function.update mask.words (wordOf index inRange)
      (mask.words (wordOf index inRange) ||| 1#64 <<< (index % 64))⟩
  else mask

def reset (mask : SlotWords) (index : Nat) : SlotWords :=
  if inRange : index < kMaxSpectrumSlots then
    ⟨Function.update mask.words (wordOf index inRange)
      (mask.words (wordOf index inRange) &&& ~~~(1#64 <<< (index % 64)))⟩
  else mask

def test (mask : SlotWords) (index : Nat) : Bool :=
  if inRange : index < kMaxSpectrumSlots then
    mask.words (wordOf index inRange) &&& 1#64 <<< (index % 64) != 0
  else false

def andWith (mask other : SlotWords) : SlotWords :=
  ⟨fun word => mask.words word &&& other.words word⟩

def intersect (mask other : SlotWords) : SlotWords := mask.andWith other

def isEmpty (mask : SlotWords) : Bool :=
  (List.finRange kWords).all fun word => mask.words word == 0

def isSubsetOf (mask other : SlotWords) : Bool :=
  (List.finRange kWords).all fun word =>
    mask.words word &&& ~~~other.words word == 0

/-- Shift a word down to its lowest set bit, and count the shifts.  Only words
that are not zero are shifted. -/
def shiftCount (value : BitVec 64) (bit : Nat) : Nat :=
  if value ≠ 0 ∧ value &&& 1 = 0 then shiftCount (value >>> 1) (bit + 1)
  else bit
termination_by value.toNat
decreasing_by
  next shifts =>
    have positive : value.toNat ≠ 0 := fun zero =>
      shifts.1 (BitVec.eq_of_toNat_eq (by simpa using zero))
    rw [BitVec.toNat_ushiftRight, Nat.shiftRight_eq_div_pow]
    omega

def lowestSetBit (mask : SlotWords) : Option Nat :=
  match (List.finRange kWords).find? fun word => mask.words word != 0 with
  | Option.none => Option.none
  | some word =>
      let index := word.val * 64 + shiftCount (mask.words word) 0
      if index ≥ kMaxSpectrumSlots then Option.none else some index

def firstSlotMask (mask : SlotWords) (width : Nat) : SlotWords :=
  if width = 0 ∨ width > kMaxSpectrumSlots then none
  else
    (List.range (kMaxSpectrumSlots - width + 1)).foldl
      (fun result start =>
        if (List.range width).all fun offset => mask.test (start + offset)
        then result.set start else result)
      none

/-- The set of slots that the words stand for. -/
def toMask (mask : SlotWords) : SlotMask :=
  ⟨mask.words 3 ++ mask.words 2 ++ mask.words 1 ++ mask.words 0⟩

/-! ### Bits of a word -/

theorem and_bit_ne_zero (word : BitVec 64) {bit : Nat} (inWord : bit < 64) :
    (word &&& 1#64 <<< bit != 0) = word.getLsbD bit := by
  rw [Bool.eq_iff_iff, bne_iff_ne, ne_eq]
  constructor
  · intro nonzero
    by_contra clear
    refine nonzero (BitVec.eq_of_getLsbD_eq fun other _ => ?_)
    rw [BitVec.getLsbD_and, BitVec.getLsbD_shiftLeft, BitVec.getLsbD_one]
    by_cases same : other = bit
    · subst same
      simp [clear]
    · have above : other < bit ∨ ¬ other - bit = 0 := by omega
      rcases above with below | above <;> simp [*]
  · intro isSet zero
    have bits := congrArg (fun word => BitVec.getLsbD word bit) zero
    simp only [BitVec.getLsbD_and, isSet, BitVec.getLsbD_shiftLeft, inWord] at bits
    simp at bits

theorem test_eq (mask : SlotWords) (index : Nat)
    (inRange : index < kMaxSpectrumSlots) :
    mask.test index = (mask.words (wordOf index inRange)).getLsbD (index % 64) := by
  unfold test
  rw [dif_pos inRange, and_bit_ne_zero _ (Nat.mod_lt _ (by decide))]

theorem test_eq_false_of_le {mask : SlotWords} {index : Nat}
    (outside : kMaxSpectrumSlots ≤ index) : mask.test index = false :=
  dif_neg (Nat.not_lt.mpr outside)

/-- The words are read at the slots of the set. -/
@[simp]
theorem test_toMask (mask : SlotWords) (index : Nat) :
    mask.toMask.test index = mask.test index := by
  by_cases inRange : index < kMaxSpectrumSlots
  · rw [test_eq mask index inRange]
    have atWord (word : Fin kWords) (bit : Nat) (inWord : bit < 64)
        (same : index = word.val * 64 + bit) :
        (mask.words (wordOf index inRange)).getLsbD (index % 64) =
          (mask.words word).getLsbD bit := by
      have found : wordOf index inRange = word := Fin.ext (by
        change index / 64 = word.val
        omega)
      rw [found, show index % 64 = bit by omega]
    unfold kMaxSpectrumSlots at inRange
    unfold toMask SlotMask.test
    rw [BitVec.getLsbD_append, BitVec.getLsbD_append, BitVec.getLsbD_append]
    split_ifs with first second third
    · exact (atWord 0 index first (by simp)).symm
    · exact (atWord 1 _ second (by change index = 1 * 64 + _; omega)).symm
    · exact (atWord 2 _ third (by change index = 2 * 64 + _; omega)).symm
    · exact (atWord 3 _ (by omega) (by change index = 3 * 64 + _; omega)).symm
  · rw [test_eq_false_of_le (Nat.le_of_not_lt inRange),
      SlotMask.test_eq_false_of_le (Nat.le_of_not_lt inRange)]

theorem toMask_injective : Function.Injective toMask := by
  intro mask other same
  refine SlotWords.ext (funext fun word => BitVec.eq_of_getLsbD_eq fun bit inWord => ?_)
  have bound := word.isLt
  have inRange : word.val * 64 + bit < kMaxSpectrumSlots := by
    unfold kWords at bound
    unfold kMaxSpectrumSlots at *
    omega
  have found : wordOf (word.val * 64 + bit) inRange = word := Fin.ext (by
    change (word.val * 64 + bit) / 64 = word.val
    omega)
  have slots := congrArg (fun mask => SlotMask.test mask (word.val * 64 + bit)) same
  simp only [test_toMask, test_eq _ _ inRange, found] at slots
  rwa [show (word.val * 64 + bit) % 64 = bit by omega] at slots

/-! ### The operations on the set of slots -/

theorem toMask_eq {mask : SlotWords} {slots : SlotMask}
    (same : ∀ slot < kMaxSpectrumSlots, mask.test slot = slots.test slot) :
    mask.toMask = slots :=
  SlotMask.ext_test fun slot inRange => by rw [test_toMask, same slot inRange]

@[simp]
theorem toMask_none : none.toMask = SlotMask.none := by
  apply toMask_eq
  intro slot inRange
  rw [test_eq _ _ inRange, SlotMask.test_none]
  exact BitVec.getLsbD_zero

@[simp]
theorem toMask_intersect (mask other : SlotWords) :
    (mask.intersect other).toMask = mask.toMask.intersect other.toMask := by
  apply toMask_eq
  intro slot inRange
  rw [SlotMask.test_intersect, test_toMask, test_toMask, test_eq _ _ inRange,
    test_eq _ _ inRange, test_eq _ _ inRange]
  exact BitVec.getLsbD_and

/-- A bit is written in the word of its slot only. -/
theorem test_update {mask : SlotWords} {index slot : Nat} {word : BitVec 64}
    (inRange : index < kMaxSpectrumSlots) (inside : slot < kMaxSpectrumSlots) :
    (⟨Function.update mask.words (wordOf index inRange) word⟩ : SlotWords).test
        slot =
      if slot / 64 = index / 64 then word.getLsbD (slot % 64)
      else mask.test slot := by
  rw [test_eq _ _ inside, test_eq _ _ inside]
  by_cases sameWord : slot / 64 = index / 64
  · have found : wordOf slot inside = wordOf index inRange := Fin.ext sameWord
    rw [if_pos sameWord, found]
    dsimp only
    rw [Function.update_self]
  · have other : wordOf slot inside ≠ wordOf index inRange := fun same =>
      sameWord (congrArg Fin.val same)
    rw [if_neg sameWord]
    dsimp only
    rw [Function.update_of_ne other]

@[simp]
theorem toMask_set (mask : SlotWords) (index : Nat) :
    (mask.set index).toMask = mask.toMask.set index := by
  apply toMask_eq
  intro slot inside
  rw [SlotMask.test_set, test_toMask]
  unfold set
  split_ifs with inRange
  · rw [test_update inRange inside, test_eq _ _ inside, Bool.eq_iff_iff]
    unfold kMaxSpectrumSlots at inRange
    split_ifs with sameWord
    · have found : wordOf index inRange = wordOf slot inside :=
        Fin.ext sameWord.symm
      rw [found, BitVec.getLsbD_or, BitVec.getLsbD_shiftLeft, BitVec.getLsbD_one]
      simp only [Bool.or_eq_true, Bool.and_eq_true, decide_eq_true_eq,
        Bool.not_eq_true', decide_eq_false_iff_not]
      refine or_congr_right ?_
      omega
    · have other : slot ≠ index := fun same => sameWord (by rw [same])
      simp [other]
  · unfold kMaxSpectrumSlots at inRange
    simp [inRange]

@[simp]
theorem toMask_reset (mask : SlotWords) (index : Nat) :
    (mask.reset index).toMask = mask.toMask.reset index := by
  apply toMask_eq
  intro slot inside
  rw [SlotMask.test_reset, test_toMask]
  unfold reset
  split_ifs with inRange
  · rw [test_update inRange inside, test_eq _ _ inside]
    split_ifs with sameWord
    · have found : wordOf index inRange = wordOf slot inside :=
        Fin.ext sameWord.symm
      rw [found, BitVec.getLsbD_and, BitVec.getLsbD_not, BitVec.getLsbD_shiftLeft,
        BitVec.getLsbD_one, Bool.eq_iff_iff]
      simp only [Bool.and_eq_true, decide_eq_true_eq, Bool.not_eq_true',
        Bool.not_eq_false', Bool.and_eq_false_iff, decide_eq_false_iff_not]
      refine and_congr_right fun _ => ?_
      omega
    · have other : slot ≠ index := fun same => sameWord (by rw [same])
      simp [other]
  · have other : slot ≠ index := fun same => inRange (same ▸ inside)
    simp [other]

/-- Words that are all zero hold no slot. -/
theorem isEmpty_toMask (mask : SlotWords) : mask.toMask.isEmpty = mask.isEmpty := by
  rw [Bool.eq_iff_iff, SlotMask.isEmpty_iff]
  unfold isEmpty
  simp only [List.all_eq_true, List.mem_finRange, true_imp_iff, beq_iff_eq]
  constructor
  · intro clear word
    have same : mask.toMask = none.toMask := SlotMask.ext_test fun slot _ => by
      rw [clear slot, toMask_none, SlotMask.test_none]
    rw [toMask_injective same]
    rfl
  · intro zero slot
    have same : mask = none := SlotWords.ext (funext zero)
    rw [same, toMask_none, SlotMask.test_none]

/-- Inclusion word by word is inclusion of the sets of slots. -/
theorem isSubsetOf_toMask (mask other : SlotWords) :
    mask.toMask.isSubsetOf other.toMask = mask.isSubsetOf other := by
  rw [Bool.eq_iff_iff, SlotMask.isSubsetOf_iff]
  have asIntersection : mask.isSubsetOf other = true ↔
      mask.intersect other = mask := by
    unfold isSubsetOf
    simp only [List.all_eq_true, List.mem_finRange, true_imp_iff, beq_iff_eq]
    constructor
    · intro outside
      refine SlotWords.ext (funext fun word => BitVec.eq_of_getLsbD_eq
        fun bit inWord => ?_)
      have clear : ((mask.words word).getLsbD bit &&
          !(other.words word).getLsbD bit) = false := by
        have bits := congrArg (fun word => BitVec.getLsbD word bit) (outside word)
        simpa [inWord] using bits
      change (mask.words word &&& other.words word).getLsbD bit = _
      rw [BitVec.getLsbD_and]
      cases inMask : (mask.words word).getLsbD bit with
      | false => rfl
      | true =>
          rw [inMask] at clear
          simpa using clear
    · intro same word
      have kept : mask.words word &&& other.words word = mask.words word :=
        congrFun (congrArg SlotWords.words same) word
      rw [← kept, BitVec.and_assoc, BitVec.and_not_self]
      exact BitVec.and_zero
  rw [asIntersection, ← toMask_injective.eq_iff, toMask_intersect]
  constructor
  · intro included
    refine SlotMask.ext_test fun slot _ => ?_
    rw [SlotMask.test_intersect]
    cases inMask : mask.toMask.test slot with
    | false => rfl
    | true => rw [included slot inMask, Bool.true_and]
  · intro same slot inMask
    rw [← same, SlotMask.test_intersect, Bool.and_eq_true] at inMask
    exact inMask.2

/-! ### The lowest set bit -/

theorem shiftCount_of_shift {value : BitVec 64} {bit : Nat} (nonzero : value ≠ 0)
    (even : value &&& 1 = 0) :
    shiftCount value bit = shiftCount (value >>> 1) (bit + 1) := by
  conv => lhs; unfold shiftCount
  rw [if_pos ⟨nonzero, even⟩]

theorem getLsbD_zero_of_odd {value : BitVec 64} (odd : value &&& 1 ≠ 0) :
    value.getLsbD 0 = true := by
  have bit := and_bit_ne_zero value (show 0 < 64 by decide)
  rw [← bit]
  simpa using odd

/-- The shifts of a word lead to its lowest set bit. -/
theorem shiftCount_spec {value : BitVec 64} (nonzero : value ≠ 0) (bit : Nat) :
    ∃ lowest < 64, shiftCount value bit = bit + lowest ∧
      value.getLsbD lowest = true ∧
      ∀ lower < lowest, value.getLsbD lower = false := by
  induction value, bit using shiftCount.induct with
  | case1 value bit shifts ih =>
      have even : value.getLsbD 0 = false := by
        have clear := and_bit_ne_zero value (show 0 < 64 by decide)
        rw [← clear]
        simpa using shifts.2
      have shifted : value >>> 1 ≠ 0 := by
        intro zero
        refine shifts.1 (BitVec.eq_of_getLsbD_eq fun other _ => ?_)
        cases other with
        | zero => simpa using even
        | succ other =>
            have bits := congrArg (fun word => BitVec.getLsbD word other) zero
            rw [Nat.add_comm]
            simpa using bits
      obtain ⟨lowest, inWord, counted, isSet, below⟩ := ih shifted
      rw [BitVec.getLsbD_ushiftRight, Nat.add_comm] at isSet
      refine ⟨lowest + 1, ?_, ?_, isSet, ?_⟩
      · by_contra outside
        rw [BitVec.getLsbD_of_ge _ _ (by omega)] at isSet
        cases isSet
      · rw [shiftCount_of_shift shifts.1 shifts.2, counted]
        omega
      · intro lower inside
        cases lower with
        | zero => exact even
        | succ lower =>
            have clear := below lower (by omega)
            rwa [BitVec.getLsbD_ushiftRight, Nat.add_comm] at clear
  | case2 value bit stops =>
      have odd : value &&& 1 ≠ 0 := fun even => stops ⟨nonzero, even⟩
      refine ⟨0, by decide, ?_, getLsbD_zero_of_odd odd, nofun⟩
      unfold shiftCount
      rw [if_neg stops]
      rfl

theorem find_word {mask : SlotWords} {word : Fin kWords}
    (found : (List.finRange kWords).find? (fun word => mask.words word != 0) =
      some word) :
    mask.words word ≠ 0 ∧ ∀ earlier < word, mask.words earlier = 0 := by
  obtain ⟨nonzero, position, inRange, same, before⟩ :=
    List.find?_eq_some_iff_getElem.mp found
  refine ⟨bne_iff_ne.mp nonzero, fun earlier isBefore => ?_⟩
  rw [List.getElem_finRange] at same
  have isBefore : earlier.val < position := by
    have same := congrArg Fin.val same
    have isBefore : earlier.val < word.val := isBefore
    simp only [Fin.val_cast] at same
    omega
  simpa using before earlier.val isBefore

theorem lowestSetBit_toMask (mask : SlotWords) :
    mask.toMask.lowestSetBit = mask.lowestSetBit := by
  unfold lowestSetBit
  cases found : (List.finRange kWords).find? fun word => mask.words word != 0 with
  | none =>
      rw [SlotMask.lowestSetBit_eq_none_iff, isEmpty_toMask]
      simpa [isEmpty] using found
  | some word =>
      obtain ⟨nonzero, before⟩ := find_word found
      obtain ⟨lowest, inWord, counted, isSet, below⟩ := shiftCount_spec nonzero 0
      have bound : word.val < 4 := word.isLt
      simp only [counted, Nat.zero_add]
      rw [if_neg (by unfold kMaxSpectrumSlots; omega),
        SlotMask.lowestSetBit_eq_some_iff]
      have inRange (slot : Nat) (upTo : slot ≤ word.val * 64 + lowest) :
          slot < kMaxSpectrumSlots := by
        unfold kMaxSpectrumSlots
        omega
      constructor
      · have here : wordOf _ (inRange _ le_rfl) = word := Fin.ext (by
          change (word.val * 64 + lowest) / 64 = word.val
          omega)
        rw [test_toMask, test_eq _ _ (inRange _ le_rfl), here,
          show (word.val * 64 + lowest) % 64 = lowest by omega]
        exact isSet
      · intro slot isBelow
        rw [test_toMask, test_eq _ _ (inRange _ isBelow.le)]
        rcases Nat.lt_or_ge (slot / 64) word.val with earlier | later
        · rw [before (wordOf slot _) earlier]
          exact BitVec.getLsbD_zero
        · have here : wordOf slot (inRange _ isBelow.le) = word := Fin.ext (by
            change slot / 64 = word.val
            omega)
          rw [here]
          exact below _ (by omega)

/-! ### Windows -/

theorem firstSlotMask_toMask (mask : SlotWords) (width : Nat) :
    mask.toMask.firstSlotMask width = (mask.firstSlotMask width).toMask := by
  have started (starts : List Nat) (result : SlotWords) :
      starts.foldl (fun result start =>
          if (List.range width).all fun offset => mask.toMask.test (start + offset)
          then result.set start else result) result.toMask =
        (starts.foldl (fun result start =>
          if (List.range width).all fun offset => mask.test (start + offset)
          then result.set start else result) result).toMask := by
    induction starts generalizing result with
    | nil => rfl
    | cons first rest ih =>
        rw [List.foldl_cons, List.foldl_cons, ← ih]
        simp only [test_toMask]
        split_ifs
        · rw [toMask_set]
        · rfl
  unfold SlotMask.firstSlotMask firstSlotMask
  split_ifs
  · exact toMask_none.symm
  · rw [← toMask_none]
    exact started _ none

/-- The intersection of the masks, or the given one when there are none. -/
def intersectAll (mask : SlotWords) (masks : List SlotWords) : SlotWords :=
  masks.foldl intersect mask

theorem test_intersectAll {mask : SlotWords} {masks : List SlotWords} {slot : Nat} :
    (mask.intersectAll masks).test slot = true ↔
      ∀ other ∈ mask :: masks, other.test slot = true := by
  unfold intersectAll
  induction masks generalizing mask with
  | nil => simp
  | cons first rest ih =>
      rw [List.foldl_cons, ih]
      rw [List.forall_mem_cons, List.forall_mem_cons, List.forall_mem_cons,
        ← test_toMask (mask.intersect first), toMask_intersect,
        SlotMask.test_intersect, test_toMask, test_toMask, Bool.and_eq_true,
        and_assoc]

theorem test_firstSlotMask {mask : SlotWords} {width slot : Nat} :
    (mask.firstSlotMask width).test slot = true ↔
      1 ≤ width ∧ slot + width ≤ 256 ∧
        ∀ covered, slot ≤ covered → covered < slot + width →
          mask.test covered = true := by
  rw [← test_toMask, ← firstSlotMask_toMask, SlotMask.test_firstSlotMask]
  refine and_congr_right fun _ => and_congr_right fun _ => ?_
  constructor
  · intro window covered above below
    have inside := window (covered - slot) (by omega)
    rwa [test_toMask, Nat.add_sub_cancel' above] at inside
  · intro window offset inside
    rw [test_toMask]
    exact window _ (by omega) (by omega)

theorem ext_test {mask other : SlotWords}
    (slots : ∀ slot, mask.test slot = true ↔ other.test slot = true) :
    mask = other := by
  refine toMask_injective (SlotMask.ext_test fun slot _ => ?_)
  rw [test_toMask, test_toMask, Bool.eq_iff_iff]
  exact slots slot

theorem isSubsetOf_iff {mask other : SlotWords} :
    mask.isSubsetOf other = true ↔
      ∀ slot, mask.test slot = true → other.test slot = true := by
  rw [← isSubsetOf_toMask, SlotMask.isSubsetOf_iff]
  simp only [test_toMask]

/-- The windows of an intersection are the windows that all masks have, at
every width and over every edge of a word; the lowest set bit is the least slot
of a mask; and inclusion is inclusion of the slots, so that intersecting further
masks leaves no new start. -/
theorem windows_of_intersection (width : Nat) (mask : SlotWords)
    (masks : List SlotWords) :
    (mask.firstSlotMask width).intersectAll
        (masks.map fun other => other.firstSlotMask width) =
      (mask.intersectAll masks).firstSlotMask width ∧
    (∀ slot, ((mask.intersectAll masks).firstSlotMask width).test slot = true ↔
      1 ≤ width ∧ slot + width ≤ 256 ∧
        ∀ other ∈ mask :: masks, ∀ covered, slot ≤ covered →
          covered < slot + width → other.test covered = true) ∧
    (∀ slots : SlotWords,
      (∀ slot, slots.lowestSetBit = some slot ↔
        slots.test slot = true ∧ ∀ lower < slot, slots.test lower = false) ∧
      (slots.lowestSetBit = Option.none ↔ slots.isEmpty = true) ∧
      (slots.isEmpty = true ↔ ∀ slot, slots.test slot = false)) ∧
    (∀ first second : SlotWords, first.isSubsetOf second = true ↔
      ∀ slot, first.test slot = true → second.test slot = true) ∧
    ∀ further : List SlotWords,
      ((mask.intersectAll (masks ++ further)).firstSlotMask width).isSubsetOf
        ((mask.intersectAll masks).firstSlotMask width) = true := by
  have bit (slot : Nat) :
      ((mask.intersectAll masks).firstSlotMask width).test slot = true ↔
        1 ≤ width ∧ slot + width ≤ 256 ∧
          ∀ other ∈ mask :: masks, ∀ covered, slot ≤ covered →
            covered < slot + width → other.test covered = true := by
    rw [test_firstSlotMask]
    refine and_congr_right fun _ => and_congr_right fun _ => ?_
    simp only [test_intersectAll]
    exact ⟨fun window other member covered above below =>
        window covered above below other member,
      fun window covered above below other member =>
        window other member covered above below⟩
  refine ⟨ext_test fun slot => ?_, bit, fun slots => ⟨fun slot => ?_, ?_, ?_⟩,
    fun first second => isSubsetOf_iff, fun further => ?_⟩
  · have mapped : mask.firstSlotMask width ::
          masks.map (fun other => other.firstSlotMask width) =
        (mask :: masks).map fun other => other.firstSlotMask width := rfl
    rw [bit, test_intersectAll, mapped]
    simp only [List.forall_mem_map, test_firstSlotMask]
    constructor
    · intro windows
      obtain ⟨positive, fits, -⟩ := windows mask (List.mem_cons_self ..)
      exact ⟨positive, fits, fun other member => (windows other member).2.2⟩
    · rintro ⟨positive, fits, windows⟩ other member
      exact ⟨positive, fits, windows other member⟩
  · rw [← lowestSetBit_toMask, SlotMask.lowestSetBit_eq_some_iff]
    simp only [test_toMask]
  · rw [← lowestSetBit_toMask, SlotMask.lowestSetBit_eq_none_iff, isEmpty_toMask]
  · rw [← isEmpty_toMask, SlotMask.isEmpty_iff]
    simp only [test_toMask]
  · rw [isSubsetOf_iff]
    intro slot
    simp only [test_firstSlotMask, test_intersectAll]
    rintro ⟨positive, fits, window⟩
    refine ⟨positive, fits, fun covered above below other member => ?_⟩
    refine window covered above below other ?_
    rw [← List.cons_append]
    exact List.mem_append_left _ member

end SlotWords

end OpticalPathPlanner
