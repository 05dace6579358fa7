import Mathlib

/-!
# Sorted ranges

Ordering algorithms of a standard library, over arbitrary types.  A sorting
routine is any function that returns a sorted permutation of its argument: it
need not be stable, so two elements that the comparison cannot tell apart may
come out in either order.  A lower bound is the first position whose element
is not before the value that is looked for, and a binary search is a lower
bound followed by one comparison.
-/

namespace SortedRanges

variable {α κ : Type}

/-- A comparison that sorts: of any two elements one is not after the other,
and "not after" is transitive. -/
structure IsStrictWeak (less : α → α → Bool) : Prop where
  total : ∀ first second, less second first = false ∨ less first second = false
  trans : ∀ first second third, less second first = false →
    less third second = false → less third first = false

/-- Comparing the images of a map into a linear order always sorts. -/
theorem isStrictWeak_of_key [LinearOrder κ] (key : α → κ) :
    IsStrictWeak fun first second => decide (key first < key second) where
  total first second := by
    simp only [decide_eq_false_iff_not, not_lt]
    exact le_total _ _
  trans first second third := by
    simp only [decide_eq_false_iff_not, not_lt]
    exact le_trans

/-- A sorting routine, possibly unstable. -/
structure SortRoutine where
  sort : {α : Type} → (α → α → Bool) → List α → List α
  perm : ∀ {α : Type} (less : α → α → Bool) (range : List α),
    (sort less range).Perm range
  sorted : ∀ {α : Type} (less : α → α → Bool) (range : List α),
    IsStrictWeak less →
      (sort less range).Pairwise fun first second => less second first = false

namespace SortRoutine

/-- Sort by the image of a map into a linear order. -/
def sortBy (routine : SortRoutine) [LinearOrder κ] (key : α → κ)
    (range : List α) : List α :=
  routine.sort (fun first second => decide (key first < key second)) range

theorem sortBy_perm (routine : SortRoutine) [LinearOrder κ] (key : α → κ)
    (range : List α) : (routine.sortBy key range).Perm range :=
  routine.perm _ _

@[simp]
theorem mem_sortBy (routine : SortRoutine) [LinearOrder κ] (key : α → κ)
    (range : List α) (element : α) :
    element ∈ routine.sortBy key range ↔ element ∈ range :=
  (routine.sortBy_perm key range).mem_iff

theorem sortBy_sorted (routine : SortRoutine) [LinearOrder κ] (key : α → κ)
    (range : List α) :
    (routine.sortBy key range).Pairwise fun first second =>
      key first ≤ key second := by
  have sorted := routine.sorted _ range (isStrictWeak_of_key key)
  simp only [decide_eq_false_iff_not, not_lt] at sorted
  exact sorted

/-- Sort the values of a linear order. -/
def sortValues (routine : SortRoutine) [LinearOrder α] (range : List α) :
    List α :=
  routine.sortBy (fun element => element) range

@[simp]
theorem mem_sortValues (routine : SortRoutine) [LinearOrder α]
    (range : List α) (element : α) :
    element ∈ routine.sortValues range ↔ element ∈ range :=
  routine.mem_sortBy _ range element

theorem sortValues_sorted (routine : SortRoutine) [LinearOrder α]
    (range : List α) : (routine.sortValues range).Pairwise (· ≤ ·) :=
  routine.sortBy_sorted _ range

/-- Insertion sort is one admissible routine, and it computes. -/
def insertion : SortRoutine where
  sort less range :=
    range.insertionSort fun first second => less second first = false
  perm less range := List.perm_insertionSort _ range
  sorted less range strict := by
    have : Std.Total fun first second => less second first = false :=
      ⟨strict.total⟩
    have : IsTrans _ fun first second => less second first = false :=
      ⟨strict.trans⟩
    exact List.pairwise_insertionSort _ range

end SortRoutine

/-- First position whose element is not before the value. -/
def lowerBound (before : α → Bool) (range : List α) : Nat :=
  range.findIdx fun element => !before element

/-- Position of the element with the given key, found by a lower bound. -/
def findByKey [LinearOrder κ] (key : α → κ) (range : List α)
    (value : κ) : Option Nat :=
  let position := lowerBound (fun element => decide (key element < value)) range
  match range[position]? with
  | some element => if key element = value then some position else none
  | none => none

/-- Membership by a lower bound and one comparison. -/
def binarySearch [LinearOrder α] (range : List α) (value : α) : Bool :=
  match range[lowerBound (fun element => decide (element < value)) range]? with
  | some element => !decide (value < element)
  | none => false

/-- A found position holds an element with the key, whatever the range. -/
theorem getElem?_of_findByKey [LinearOrder κ] {key : α → κ} {range : List α}
    {value : κ} {position : Nat}
    (found : findByKey key range value = some position) :
    ∃ element, range[position]? = some element ∧ key element = value := by
  unfold findByKey at found
  simp only at found
  split at found
  · next element atBound =>
      split_ifs at found with keyEq
      cases found
      exact ⟨element, atBound, keyEq⟩
  · cases found

theorem lt_length_of_findByKey [LinearOrder κ] {key : α → κ}
    {range : List α} {value : κ} {position : Nat}
    (found : findByKey key range value = some position) :
    position < range.length := by
  obtain ⟨element, atPosition, _⟩ := getElem?_of_findByKey found
  exact (List.getElem?_eq_some_iff.mp atPosition).1

/-- In a strictly increasing range the lower bound of a present key is its
position. -/
theorem findByKey_of_getElem? [LinearOrder κ] {key : α → κ}
    {range : List α} {position : Nat} {element : α}
    (increasing : range.Pairwise fun first second => key first < key second)
    (atPosition : range[position]? = some element) :
    findByKey key range (key element) = some position := by
  obtain ⟨inRange, elementEq⟩ := List.getElem?_eq_some_iff.mp atPosition
  have bound : lowerBound
      (fun other => decide (key other < key element)) range = position := by
    unfold lowerBound
    rw [List.findIdx_eq inRange]
    constructor
    · simp [elementEq]
    · intro earlier earlierLt
      have := List.pairwise_iff_getElem.mp increasing earlier position
        (by omega) inRange earlierLt
      simpa [elementEq] using this
  simp [findByKey, bound, atPosition]

theorem findByKey_eq_none_iff [LinearOrder κ] {key : α → κ}
    {range : List α} {value : κ}
    (increasing : range.Pairwise fun first second => key first < key second) :
    findByKey key range value = none ↔
      ∀ element ∈ range, key element ≠ value := by
  constructor
  · intro missing element member keyEq
    obtain ⟨position, inRange, elementEq⟩ := List.mem_iff_getElem.mp member
    have found := findByKey_of_getElem? increasing
      (List.getElem?_eq_some_iff.mpr ⟨inRange, elementEq⟩)
    rw [keyEq, missing] at found
    cases found
  · intro absent
    cases found : findByKey key range value with
    | none => rfl
    | some position =>
        obtain ⟨element, atPosition, keyEq⟩ := getElem?_of_findByKey found
        exact (absent element (List.mem_of_getElem? atPosition) keyEq).elim

/-- A successful binary search names an element, whatever the range. -/
theorem mem_of_binarySearch [LinearOrder α] {range : List α} {value : α}
    (found : binarySearch range value = true) : value ∈ range := by
  unfold binarySearch at found
  split at found
  · next element atBound =>
      have notBefore : ¬ element < value := by
        simpa using List.findIdx_of_getElem?_eq_some atBound
      have notAfter : ¬ value < element := by simpa using found
      have valueEq : value = element :=
        le_antisymm (not_lt.mp notBefore) (not_lt.mp notAfter)
      exact valueEq ▸ List.mem_of_getElem? atBound
  · cases found

/-- On a sorted range binary search decides membership. -/
theorem binarySearch_iff [LinearOrder α] {range : List α} {value : α}
    (sorted : range.Pairwise (· ≤ ·)) :
    binarySearch range value = true ↔ value ∈ range := by
  refine ⟨mem_of_binarySearch, fun member => ?_⟩
  obtain ⟨position, inRange, elementEq⟩ := List.mem_iff_getElem.mp member
  have boundLe : lowerBound (fun element => decide (element < value)) range ≤
      position := by
    by_contra later
    have := List.not_of_lt_findIdx (Nat.lt_of_not_le later)
    simp [elementEq] at this
  have boundLt := Nat.lt_of_le_of_lt boundLe inRange
  simp only [binarySearch, List.getElem?_eq_getElem boundLt]
  rcases Nat.lt_or_eq_of_le boundLe with earlier | equal
  · have := List.pairwise_iff_getElem.mp sorted _ _ boundLt inRange earlier
    simpa [elementEq] using this
  · simp [equal, elementEq]

theorem binarySearch_sortValues (routine : SortRoutine) [LinearOrder α]
    (range : List α) (value : α) :
    binarySearch (routine.sortValues range) value = true ↔ value ∈ range := by
  rw [binarySearch_iff (routine.sortValues_sorted range)]
  exact routine.mem_sortValues range value

end SortedRanges
