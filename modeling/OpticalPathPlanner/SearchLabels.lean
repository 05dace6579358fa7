import OpticalPathPlanner.SearchFacts

/-!
# Labels, dominance and the queue order

A label is a partial route seen from its last port: the port, the reach
profile of the open segment, the channel starts that are still usable, the
resource vector and whether every fact used so far was published.  The queue
orders labels by cost, then hops, then regenerations, then by the order in
which they were created.
-/

namespace OpticalPathPlanner

inductive ArcKind
  | span
  | crossConnect
deriving DecidableEq, Repr

structure ArcRef where
  kind : ArcKind
  index : Nat
  reversed : Bool
deriving DecidableEq, Repr

/-- Checked 64-bit addition. -/
def addCheckedU64 (lhs rhs : UInt64) : Option UInt64 :=
  if lhs > 18446744073709551615 - rhs then none else some (lhs + rhs)

theorem addCheckedU64_eq_some_iff {lhs rhs sum : UInt64} :
    addCheckedU64 lhs rhs = some sum ↔ sum.toNat = lhs.toNat + rhs.toNat := by
  have lhsLt := lhs.toNat_lt
  have rhsLt := rhs.toNat_lt
  have sumLt := sum.toNat_lt
  have room : (18446744073709551615 - rhs : UInt64).toNat =
      18446744073709551615 - rhs.toNat := by
    rw [UInt64.toNat_sub_of_le]
    · rfl
    · rw [UInt64.le_iff_toNat_le]
      change rhs.toNat ≤ 18446744073709551615
      omega
  unfold addCheckedU64
  simp only [gt_iff_lt, UInt64.lt_iff_toNat_lt, room]
  split_ifs with overflow
  · simp only [false_iff]
    omega
  · rw [Option.some.injEq, ← UInt64.toNat_inj, UInt64.toNat_add,
      Nat.mod_eq_of_lt (by omega)]
    exact eq_comm

/-- The position of a label in the search order. -/
structure LabelKey where
  cost : UInt64
  hops : Nat
  regenerations : Nat
deriving DecidableEq, Repr

namespace LabelKey

/-- The key as a triple of numbers. -/
def triple (key : LabelKey) : Nat ×ₗ Nat ×ₗ Nat :=
  toLex (key.cost.toNat, toLex (key.hops, key.regenerations))

theorem triple_injective : Function.Injective triple := by
  rintro ⟨firstCost, firstHops, firstRegenerations⟩
    ⟨secondCost, secondHops, secondRegenerations⟩ equal
  simp only [triple, toLex_inj, Prod.mk.injEq, UInt64.toNat_inj] at equal
  obtain ⟨rfl, rfl, rfl⟩ := equal
  rfl

instance : LinearOrder LabelKey := LinearOrder.lift' triple triple_injective

theorem lt_iff {first second : LabelKey} :
    first < second ↔ first.cost.toNat < second.cost.toNat ∨
      first.cost.toNat = second.cost.toNat ∧ (first.hops < second.hops ∨
        first.hops = second.hops ∧
          first.regenerations < second.regenerations) := by
  change triple first < triple second ↔ _
  simp [triple, Prod.Lex.toLex_lt_toLex]

theorem le_iff {first second : LabelKey} :
    first ≤ second ↔ first.cost.toNat < second.cost.toNat ∨
      first.cost.toNat = second.cost.toNat ∧ (first.hops < second.hops ∨
        first.hops = second.hops ∧
          first.regenerations ≤ second.regenerations) := by
  change triple first ≤ triple second ↔ _
  simp [triple, Prod.Lex.toLex_le_toLex]

/-- Smaller in every component is smaller. -/
theorem le_of_components {first second : LabelKey}
    (cost : first.cost.toNat ≤ second.cost.toNat)
    (hops : first.hops ≤ second.hops)
    (regenerations : first.regenerations ≤ second.regenerations) :
    first ≤ second := by
  rw [le_iff]
  omega

end LabelKey

def keyLess (lhs rhs : LabelKey) : Bool :=
  if lhs.cost ≠ rhs.cost then decide (lhs.cost < rhs.cost)
  else if lhs.hops ≠ rhs.hops then decide (lhs.hops < rhs.hops)
  else decide (lhs.regenerations < rhs.regenerations)

theorem keyLess_iff {lhs rhs : LabelKey} :
    keyLess lhs rhs = true ↔ lhs < rhs := by
  rw [LabelKey.lt_iff]
  unfold keyLess
  by_cases cost : lhs.cost = rhs.cost
  · by_cases hops : lhs.hops = rhs.hops
    · simp [cost, hops]
    · simp [cost, hops]
  · have costNat : lhs.cost.toNat ≠ rhs.cost.toNat := by
      rwa [ne_eq, UInt64.toNat_inj]
    simp [cost, costNat, UInt64.lt_iff_toNat_lt]

structure Label (K : Type) where
  portIndex : Nat
  /-- The arc the label arrived by; the start label has none. -/
  arrival : Option ArcRef
  profileIndex : Option Nat
  mask : SlotMask
  cost : UInt64
  distanceM : UInt64
  lossDb : K
  osnrInverse : K
  spanCount : Nat
  hops : Nat
  regenerations : Nat
  proven : Bool
deriving DecidableEq

namespace Label

variable {K : Type}

def isStart (label : Label K) : Bool := label.arrival.isNone

def key (label : Label K) : LabelKey :=
  ⟨label.cost, label.hops, label.regenerations⟩

/-- The dominance bucket of a label. -/
def bucket (label : Label K) : Nat × Option Nat :=
  (label.portIndex, label.profileIndex)

variable [LinearOrder K]

/-- At least as good in every dimension that dominance compares. -/
def dominates (candidate reference : Label K) : Bool :=
  if !candidate.proven && reference.proven then false
  else if candidate.cost > reference.cost then false
  else if candidate.distanceM > reference.distanceM then false
  else if candidate.lossDb > reference.lossDb then false
  else if candidate.osnrInverse > reference.osnrInverse then false
  else if candidate.spanCount > reference.spanCount then false
  else if candidate.hops > reference.hops then false
  else if candidate.regenerations > reference.regenerations then false
  else if !reference.mask.isSubsetOf candidate.mask then false
  else true

/-- The order that `dominates` decides. -/
structure Dominates (candidate reference : Label K) : Prop where
  proven : reference.proven = true → candidate.proven = true
  cost : candidate.cost.toNat ≤ reference.cost.toNat
  distanceM : candidate.distanceM.toNat ≤ reference.distanceM.toNat
  lossDb : candidate.lossDb ≤ reference.lossDb
  osnrInverse : candidate.osnrInverse ≤ reference.osnrInverse
  spanCount : candidate.spanCount ≤ reference.spanCount
  hops : candidate.hops ≤ reference.hops
  regenerations : candidate.regenerations ≤ reference.regenerations
  mask : ∀ slot, reference.mask.test slot = true →
    candidate.mask.test slot = true

theorem dominates_iff {candidate reference : Label K} :
    candidate.dominates reference = true ↔ Dominates candidate reference := by
  unfold dominates
  constructor
  · intro accepted
    split_ifs at accepted with proven cost distance loss osnr spans hops regens
      mask
    refine ⟨?_, ?_, ?_, not_lt.mp loss, not_lt.mp osnr, not_lt.mp spans,
      not_lt.mp hops, not_lt.mp regens, ?_⟩
    · intro referenceProven
      cases candidateProven : candidate.proven with
      | true => rfl
      | false => simp [candidateProven, referenceProven] at proven
    · simpa [UInt64.lt_iff_toNat_lt] using cost
    · simpa [UInt64.lt_iff_toNat_lt] using distance
    · exact (SlotMask.isSubsetOf_iff _ _).mp (by simpa using mask)
  · intro order
    rw [if_neg, if_neg, if_neg, if_neg (not_lt.mpr order.lossDb),
      if_neg (not_lt.mpr order.osnrInverse),
      if_neg (not_lt.mpr order.spanCount), if_neg (not_lt.mpr order.hops),
      if_neg (not_lt.mpr order.regenerations), if_neg]
    · simpa using (SlotMask.isSubsetOf_iff _ _).mpr order.mask
    · simpa [UInt64.lt_iff_toNat_lt] using order.distanceM
    · simpa [UInt64.lt_iff_toNat_lt] using order.cost
    · cases referenceProven : reference.proven with
      | false => simp
      | true => simp [order.proven referenceProven]

theorem Dominates.refl (label : Label K) : Dominates label label where
  proven := id
  cost := Nat.le_refl _
  distanceM := Nat.le_refl _
  lossDb := le_rfl
  osnrInverse := le_rfl
  spanCount := Nat.le_refl _
  hops := Nat.le_refl _
  regenerations := Nat.le_refl _
  mask _ := id

theorem Dominates.trans {first second third : Label K}
    (left : Dominates first second) (right : Dominates second third) :
    Dominates first third where
  proven thirdProven := left.proven (right.proven thirdProven)
  cost := left.cost.trans right.cost
  distanceM := left.distanceM.trans right.distanceM
  lossDb := left.lossDb.trans right.lossDb
  osnrInverse := left.osnrInverse.trans right.osnrInverse
  spanCount := left.spanCount.trans right.spanCount
  hops := left.hops.trans right.hops
  regenerations := left.regenerations.trans right.regenerations
  mask slot inThird := left.mask slot (right.mask slot inThird)

theorem Dominates.key_le {candidate reference : Label K}
    (order : Dominates candidate reference) :
    candidate.key ≤ reference.key :=
  LabelKey.le_of_components order.cost order.hops order.regenerations

end Label

/-! ### The label table and the frontier -/

/-- A label in the table of the search, under its index.  Parent links are
never rewritten, so a label carries the labels before it, from its parent back
to the start. -/
structure SearchLabel (K : Type) where
  label : Label K
  ancestors : List (Label K)
  sequence : Nat

namespace SearchLabel

variable {K : Type}

/-- The labels of the route, from the last one back to the start. -/
def path (entry : SearchLabel K) : List (Label K) :=
  entry.label :: entry.ancestors

/-- The order in which labels leave the queue. -/
def before (lhs rhs : SearchLabel K) : Bool :=
  if lhs.label.key ≠ rhs.label.key then keyLess lhs.label.key rhs.label.key
  else decide (lhs.sequence < rhs.sequence)

/-- Insert into a queue kept in leaving order. -/
def push (entry : SearchLabel K) :
    List (SearchLabel K) → List (SearchLabel K)
  | [] => [entry]
  | head :: rest =>
      if entry.before head then entry :: head :: rest
      else head :: push entry rest

theorem perm_push (entry : SearchLabel K) (queue : List (SearchLabel K)) :
    (push entry queue).Perm (entry :: queue) := by
  induction queue with
  | nil => exact List.Perm.refl _
  | cons head rest ih =>
      simp only [push]
      split_ifs with first
      · exact List.Perm.refl _
      · exact (ih.cons head).trans (List.Perm.swap entry head rest)

theorem mem_push {entry other : SearchLabel K} {queue : List (SearchLabel K)} :
    other ∈ push entry queue ↔ other = entry ∨ other ∈ queue := by
  rw [(perm_push entry queue).mem_iff, List.mem_cons]

/-- Leaving order puts a smaller key first. -/
theorem key_le_of_before {lhs rhs : SearchLabel K}
    (order : lhs.before rhs = true) : lhs.label.key ≤ rhs.label.key := by
  unfold before at order
  split_ifs at order with keys
  · exact (keyLess_iff.mp order).le
  · exact (not_not.mp keys).le

theorem key_le_of_not_before {lhs rhs : SearchLabel K}
    (order : ¬ lhs.before rhs = true) : rhs.label.key ≤ lhs.label.key := by
  unfold before at order
  split_ifs at order with keys
  · exact not_lt.mp fun smaller => order (keyLess_iff.mpr smaller)
  · exact (not_not.mp keys).symm.le

/-- A queue in leaving order, as far as the keys go. -/
def Sorted (queue : List (SearchLabel K)) : Prop :=
  queue.Pairwise fun lhs rhs => lhs.label.key ≤ rhs.label.key

theorem Sorted.push {entry : SearchLabel K} {queue : List (SearchLabel K)}
    (sorted : Sorted queue) : Sorted (push entry queue) := by
  unfold Sorted at *
  induction queue with
  | nil => simp [SearchLabel.push]
  | cons head rest ih =>
      obtain ⟨headLe, restSorted⟩ := List.pairwise_cons.mp sorted
      simp only [SearchLabel.push]
      split_ifs with first
      · refine List.pairwise_cons.mpr ⟨?_, sorted⟩
        intro other member
        have entryLe := key_le_of_before first
        rcases List.mem_cons.mp member with rfl | inRest
        · exact entryLe
        · exact entryLe.trans (headLe other inRest)
      · refine List.pairwise_cons.mpr ⟨?_, ih restSorted⟩
        intro other member
        rcases mem_push.mp member with rfl | inRest
        · exact key_le_of_not_before first
        · exact headLe other inRest

end SearchLabel

end OpticalPathPlanner
