import OpticalPathPlanner.ArtifactText
import Mathlib

/-!
# The runtime library

What the planner takes from its standard library and from its hash function:
a sorting routine, powers and logarithms to base ten, the shortest decimal
spelling of a number, and SHA-256.  Numbers come from an ordered field, so
sums are exact; the field may be the reals, where the laws of `Runtime` hold
of the real functions, or the rationals, where the planner computes.
-/

namespace OpticalPathPlanner

open SortedRanges

/-- The library functions with the laws the planner relies on. -/
structure Runtime (K : Type) [Field K] [LinearOrder K] where
  routine : SortRoutine
  /-- `std::pow(10.0, x)` -/
  pow10 : K → K
  /-- `std::log10(x)` -/
  log10 : K → K
  pow10_pos : ∀ exponent, 0 < pow10 exponent
  log10_mono : ∀ first second, 0 < first → first ≤ second →
    log10 first ≤ log10 second
  log10_pow10 : ∀ exponent, log10 (pow10 exponent) = exponent
  /-- `std::to_chars`, with negative zero spelled as zero -/
  formatDouble : K → Bytes
  sha256 : Bytes → Digest256

variable {K : Type} [Field K] [LinearOrder K]

namespace Runtime

variable (runtime : Runtime K)

def osnrToInverse (osnrDb : K) : K := runtime.pow10 (-osnrDb / 10)

def inverseToOsnr (inverse : K) : K :=
  if inverse ≤ 0 then 10 ^ 9 else -10 * runtime.log10 inverse

/-- How a plan and the validator spell an OSNR: a segment without noise
reports zero. -/
def reportedOsnr (inverse : K) : K :=
  if inverse ≤ 0 then 0 else -10 * runtime.log10 inverse

/-- The slack of every comparison between accumulated and published values. -/
def tolerance : K := 1 / 10 ^ 9

def computeSnapshotDigest (snapshot : TopologySnapshot K) : Digest256 :=
  runtime.sha256 (text "OPP-SNAPSHOT-v1\n" ++
    snapshotToText runtime.formatDouble snapshot)

def sourceContributionDigest (snapshot : TopologySnapshot K)
    (source : SourceId) : Digest256 :=
  runtime.sha256 (sourceContributionText runtime.formatDouble snapshot source)

def computeRequestDigest (request : PlanningRequest K) : Digest256 :=
  runtime.sha256 (text "OPP-REQUEST-v1\n" ++
    requestToText runtime.formatDouble request)

def computePlanDigest (plan : PlanArtifact K) : Digest256 :=
  runtime.sha256 (text "OPP-PLAN-v1\n" ++
    plan.digestPayload runtime.formatDouble)

/-- The digest of a result is computed over its text with a zero digest. -/
def computeResultDigest (result : PlanningResult K) : Digest256 :=
  runtime.sha256 (text "OPP-RESULT-v1\n" ++
    ({ result with resultDigest := ⟨0⟩ } : PlanningResult K).canonicalBytes
      runtime.formatDouble)

def sealPlan (plan : PlanArtifact K) : PlanArtifact K :=
  { plan with digest := runtime.computePlanDigest plan }

def sealResult (result : PlanningResult K) : PlanningResult K :=
  { result with resultDigest := runtime.computeResultDigest result }

/-- Sealing is idempotent: the digest field is not part of the payload. -/
theorem computePlanDigest_sealPlan (plan : PlanArtifact K) :
    runtime.computePlanDigest (runtime.sealPlan plan) =
      (runtime.sealPlan plan).digest :=
  rfl

theorem osnrToInverse_pos (osnrDb : K) : 0 < runtime.osnrToInverse osnrDb :=
  runtime.pow10_pos _

theorem tolerance_pos [IsStrictOrderedRing K] : (0 : K) < tolerance := by
  unfold tolerance
  positivity

/-- The OSNR of an accumulated inverse never rises with the inverse, as long
as the smaller inverse is zero or at least that of one span of at most
`10 ^ 6` dB. -/
theorem inverseToOsnr_anti [IsStrictOrderedRing K] {first second osnrDb : K}
    (order : first ≤ second)
    (bounded : osnrDb ≤ 10 ^ 6)
    (attained : second ≤ 0 ∨ 0 < first ∨
      runtime.osnrToInverse osnrDb ≤ second) :
    runtime.inverseToOsnr second ≤ runtime.inverseToOsnr first := by
  unfold inverseToOsnr
  by_cases secondZero : second ≤ 0
  · rw [if_pos secondZero, if_pos (order.trans secondZero)]
  · rw [if_neg secondZero]
    by_cases firstZero : first ≤ 0
    · rw [if_pos firstZero]
      have spanBelow : runtime.osnrToInverse osnrDb ≤ second := by
        rcases attained with zero | positive | below
        · exact (secondZero zero).elim
        · exact (not_lt.mpr firstZero positive).elim
        · exact below
      have logBelow := runtime.log10_mono _ _
        (runtime.osnrToInverse_pos osnrDb) spanBelow
      rw [osnrToInverse, runtime.log10_pow10] at logBelow
      linarith
    · rw [if_neg firstZero]
      have logOrder := runtime.log10_mono _ _ (not_le.mp firstZero) order
      linarith

end Runtime

/-! ### Two runtimes -/

/-- The real functions satisfy the laws. -/
noncomputable def realRuntime (routine : SortRoutine)
    (formatDouble : ℝ → Bytes) (sha256 : Bytes → Digest256) : Runtime ℝ where
  routine := routine
  pow10 exponent := (10 : ℝ) ^ exponent
  log10 value := Real.logb 10 value
  pow10_pos exponent := Real.rpow_pos_of_pos (by norm_num) exponent
  log10_mono first second positive order :=
    Real.logb_le_logb_of_le (by norm_num) positive order
  log10_pow10 exponent :=
    Real.logb_rpow (by norm_num) (by norm_num)
  formatDouble := formatDouble
  sha256 := sha256

/-- A rational stand-in for the power of ten: the branches of a hyperbola
that agree with it at -1, 0 and 1. -/
def rationalPow10 (exponent : ℚ) : ℚ :=
  if exponent ≤ 0 then 1 / (1 - 9 * exponent) else 1 + 9 * exponent

/-- The inverse of `rationalPow10`. -/
def rationalLog10 (value : ℚ) : ℚ :=
  if value ≤ 1 then (1 - 1 / value) / 9 else (value - 1) / 9

theorem rationalPow10_pos (exponent : ℚ) : 0 < rationalPow10 exponent := by
  unfold rationalPow10
  split_ifs with nonpositive
  · apply div_pos one_pos
    linarith
  · linarith

theorem rationalLog10_mono (first second : ℚ) (positive : 0 < first)
    (order : first ≤ second) : rationalLog10 first ≤ rationalLog10 second := by
  unfold rationalLog10
  split_ifs with firstLow secondLow secondLow
  · have := one_div_le_one_div_of_le positive order
    linarith
  · have := (le_div_iff₀ positive).mpr (by linarith : 1 * first ≤ 1)
    linarith
  · linarith
  · linarith

theorem rationalLog10_pow10 (exponent : ℚ) :
    rationalLog10 (rationalPow10 exponent) = exponent := by
  unfold rationalPow10 rationalLog10
  split_ifs with nonpositive low low
  · have : (1 : ℚ) - 9 * exponent ≠ 0 := by linarith
    field_simp
    ring
  · exfalso
    apply low
    rw [div_le_one (by linarith)]
    linarith
  · exfalso
    linarith
  · ring

/-- An executable runtime over the rationals, with a polynomial checksum in
the place of the hash. -/
def rationalRuntime : Runtime ℚ where
  routine := SortRoutine.insertion
  pow10 := rationalPow10
  log10 := rationalLog10
  pow10_pos := rationalPow10_pos
  log10_mono := rationalLog10_mono
  log10_pow10 := rationalLog10_pow10
  formatDouble number := text (toString number)
  sha256 message :=
    ⟨message.foldl
      (fun word byte => word * 1000003 + BitVec.ofNat 256 byte.toNat) 0⟩

end OpticalPathPlanner
