import OpticalPathPlanner.ClientSessions
import OpticalPathPlanner.StoredPlans

/-!
# Stores that grow

No frame removes a plan.  What a service does to the directory of its store is
a list of puts, and what is put is a candidate of a plan it answered.
-/

namespace OpticalPathPlanner

variable {K : Type} [Field K] [LinearOrder K] {runtime : Runtime K}
  {numbers : DoubleText runtime.formatDouble}

namespace PlanStore

variable {options : StoreOptions} {such : PlanArtifact K → Prop}
  {start directory final : Directory} {plan : PlanArtifact K}

theorem Stored.put (stored : Stored runtime directory plan)
    (other : PlanArtifact K) (fault : Status) :
    Stored runtime (PlanStore.put runtime options other fault directory).2 plan := by
  obtain ⟨bytes, encoded, found⟩ := stored
  exact ⟨bytes, encoded, put_lookup other fault found⟩

/-- The directory came about by puts of such plans. -/
inductive Grown (runtime : Runtime K) (options : StoreOptions)
    (such : PlanArtifact K → Prop) (start : Directory) : Directory → Prop
  | start : Grown runtime options such start start
  | put {directory : Directory} {plan : PlanArtifact K} (fault : Status)
      (grown : Grown runtime options such start directory) (isSuch : such plan) :
      Grown runtime options such start
        (PlanStore.put runtime options plan fault directory).2

theorem Grown.trans (first : Grown runtime options such start directory)
    (second : Grown runtime options such directory final) :
    Grown runtime options such start final := by
  induction second with
  | start => exact first
  | put fault _ isSuch ih => exact ih.put fault isSuch

theorem Grown.lookup (grown : Grown runtime options such start directory)
    {name bytes : Bytes} (found : start.lookup name = some bytes) :
    directory.lookup name = some bytes := by
  induction grown with
  | start => exact found
  | put fault _ _ ih => exact put_lookup _ fault ih

theorem Grown.stored (grown : Grown runtime options such start directory)
    (stored : Stored runtime start plan) : Stored runtime directory plan := by
  induction grown with
  | start => exact stored
  | put fault _ _ ih => exact ih.put _ fault

theorem Grown.invariant (grown : Grown runtime options such start directory)
    (invariant : Invariant runtime options start) :
    Invariant runtime options directory := by
  induction grown with
  | start => exact invariant
  | put fault _ _ ih => exact ih.put _ fault

/-- A new file is the file of such a plan. -/
theorem Grown.origin (grown : Grown runtime options such start directory)
    {name bytes : Bytes} (found : directory.lookup name = some bytes) :
    start.lookup name = some bytes ∨ ∃ plan, such plan ∧
      name = fileNameFor plan.digest ∧ encodeStoreFile runtime plan = .ok bytes := by
  induction grown with
  | start => exact .inl found
  | @put directory plan fault _ isSuch ih =>
      rcases put_cases plan fault with same | ⟨other, encoded, _, _, written⟩
      · rw [same] at found
        exact ih found
      · rw [written] at found
        by_cases own : name = fileNameFor plan.digest
        · subst own
          rw [AList.lookup_insert, Option.some.injEq] at found
          exact .inr ⟨plan, isSuch, rfl, found ▸ encoded⟩
        · rw [AList.lookup_insert_ne own] at found
          exact ih found

end PlanStore

/-! ### The store of a service -/

/-- The plan is a candidate of undisturbed planning. -/
def PlanArtifact.IsPlanned (runtime : Runtime K) (options : ServiceOptions)
    (plan : PlanArtifact K) : Prop :=
  ∃ snapshot request, plan ∈
    (ServiceState.planAnswer runtime options snapshot request).candidates

namespace ServiceState

variable {options : ServiceOptions} {state : ServiceState K} {faults : FrameFaults}

theorem storeCandidates_grown {such : PlanArtifact K → Prop}
    {result : PlanningResult K} (store : Directory)
    (all : ∀ plan ∈ result.candidates, such plan) :
    PlanStore.Grown runtime options.store such store
      (storeCandidates runtime options faults result store).2 := by
  unfold storeCandidates
  split_ifs
  · have listed : ∀ candidate ∈ result.candidates.zipIdx, such candidate.1 := by
      intro candidate member
      exact all _ (List.fst_mem_of_mem_zipIdx member)
    generalize result.candidates.zipIdx = candidates at listed ⊢
    generalize true = stored
    induction candidates generalizing store stored with
    | nil => exact .start
    | cons candidate rest ih =>
        rw [List.forall_mem_cons] at listed
        exact (PlanStore.Grown.start.put _ listed.1).trans (ih _ listed.2 _)
  · exact .start

theorem handleRequest_grown (kind : RequestKind) (payload : Bytes) :
    PlanStore.Grown runtime options.store (PlanArtifact.IsPlanned runtime options)
      state.store (handleRequest numbers options state faults kind payload).2.store := by
  cases kind with
  | plan =>
      simp only [handleRequest, handlePlan]
      cases decodePlan payload with
      | error status => exact .start
      | ok message =>
          cases parsed : parseRequestText numbers message.requestText with
          | error status =>
              simp only [parsed]
              exact .start
          | ok request =>
              simp only [parsed]
              exact storeCandidates_grown state.store fun plan member =>
                ⟨state.snapshot, request, member⟩
  | hello =>
      simp only [handleRequest, handleHello]
      split
      · exact .start
      · split_ifs <;> exact .start
  | ingest =>
      simp only [handleRequest, handleIngest, saveSnapshot]
      repeat' split
      all_goals exact .start
  | validate =>
      simp only [handleRequest, handleValidate]
      split
      · exact .start
      · split <;> exact .start
  | getPlan =>
      simp only [handleRequest, handleGetPlan]
      split
      · exact .start
      · split <;> exact .start
  | storeList => exact .start
  | cancel =>
      simp only [handleRequest, handleCancel, cancelRequests]
      repeat' split
      all_goals exact .start
  | stats => exact .start
  | shutdown => exact .start

theorem serveFrame_grown (numbers : DoubleText runtime.formatDouble)
    (options : ServiceOptions) (state : ServiceState K) (faults : FrameFaults)
    (frame : Frame) :
    PlanStore.Grown runtime options.store (PlanArtifact.IsPlanned runtime options)
      state.store (state.serveFrame numbers options faults frame).2.store := by
  have ways := serveFrame_served numbers options state faults frame
  generalize state.serveFrame numbers options faults frame = served at ways ⊢
  cases ways with
  | refused status stats => exact .start
  | stopped stats => exact .start
  | answered asked handled stats =>
      rename_i kind payload next
      have grown := @handleRequest_grown K _ _ _ numbers options state faults
        kind frame.payload
      rw [handled] at grown
      exact grown

end ServiceState

end OpticalPathPlanner
