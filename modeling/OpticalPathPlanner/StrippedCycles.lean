import OpticalPathPlanner.CandidateRoutes
import OpticalPathPlanner.DisjointCandidates
import OpticalPathPlanner.LoopErasure

/-!
# Stripping the cycles of an arc sequence

Stripping keeps, of arcs that lead from port to port, a walk on pairwise
distinct ports with the same ends.
-/

namespace OpticalPathPlanner

open LoopErasure

variable {K : Type}

def departurePort (snapshot : TopologySnapshot K) (arc : ArcRef) :
    Except Status PortKey :=
  match arc.kind with
  | .span =>
      match snapshot.spans[arc.index]? with
      | none => .error (failure .internal (text "span arc index is out of range"))
      | some record => .ok (record.departure arc.reversed)
  | .crossConnect =>
      match snapshot.crossConnects[arc.index]? with
      | none => .error (failure .internal
          (text "cross-connect arc index is out of range"))
      | some record => .ok record.fromPort

variable {snapshot : TopologySnapshot K} {source : PortKey}
  {read arcs output : List ArcRef} {passed keys visited : List PortKey}

variable (snapshot) in
/-- The arcs are in range and lead from a port through the listed ones, each
departing from the port that the one before it arrives at. -/
def TopologySnapshot.LeadsThrough : PortKey → List ArcRef → List PortKey → Prop :=
  Leads (fun arc key => departurePort snapshot arc = .ok key)
    (fun arc key => arrivalPort snapshot arc = .ok key)

theorem TopologySnapshot.LeadsThrough.arrivals
    (leads : snapshot.LeadsThrough source arcs keys) :
    List.Forall₂ (fun arc key => arrivalPort snapshot arc = .ok key) arcs keys := by
  induction leads with
  | nil => exact .nil
  | cons _ lands _ ih => exact .cons lands ih

/-- Stripping erases the loops of the arcs it reads, from whatever it has kept
of the arcs before, and goes on from what it keeps of them. -/
theorem erases_stripFrom
    (arrivals : List.Forall₂
      (fun arc key => arrivalPort snapshot arc = .ok key) arcs keys)
    (erased : Erases source read passed output visited) :
    ∃ kept, Erases source (read ++ arcs) (passed ++ keys)
        (stripFrom snapshot output (source :: visited) arcs) kept ∧
      ∀ rest, stripFrom snapshot output (source :: visited) (arcs ++ rest) =
        stripFrom snapshot (stripFrom snapshot output (source :: visited) arcs)
          (source :: kept) rest := by
  induction arrivals generalizing read passed output visited with
  | nil =>
      refine ⟨visited, ?_, fun rest => by rw [stripFrom, List.nil_append]⟩
      rwa [List.append_nil, List.append_nil, stripFrom]
  | @cons arc key arcs keys lands _ ih =>
      rw [List.append_cons read, List.append_cons passed]
      simp only [stripFrom, lands, List.cons_append]
      split
      · next again =>
          rw [List.take_succ_cons]
          exact ih (erased.returnTo erased.length_eq.2 again)
      · next fresh => exact ih (erased.keep fresh)

theorem erases_stripCycles (leads : snapshot.LeadsThrough source arcs keys) :
    ∃ kept, Erases source arcs keys (stripCycles snapshot source arcs) kept := by
  obtain ⟨kept, erased, _⟩ := erases_stripFrom leads.arrivals .start
  exact ⟨kept, erased⟩

/-- One more arc is kept when it arrives at a port that is not kept yet;
otherwise the arcs since that port are dropped with it. -/
theorem stripCycles_concat {arc : ArcRef} {key : PortKey}
    (leads : snapshot.LeadsThrough source arcs keys)
    (lands : arrivalPort snapshot arc = .ok key) :
    ∃ kept, Erases source arcs keys (stripCycles snapshot source arcs) kept ∧
      stripCycles snapshot source (arcs ++ [arc]) =
        if key ∈ source :: kept then
          (stripCycles snapshot source arcs).take ((source :: kept).idxOf key)
        else stripCycles snapshot source arcs ++ [arc] := by
  obtain ⟨kept, erased, onward⟩ := erases_stripFrom leads.arrivals .start
  refine ⟨kept, erased, ?_⟩
  have next := onward [arc]
  simp only [stripFrom, lands] at next
  exact next

/-- Nothing is stripped from arcs that visit no port twice. -/
theorem stripCycles_eq_self (leads : snapshot.LeadsThrough source arcs keys)
    (simple : (source :: keys).Nodup) : stripCycles snapshot source arcs = arcs :=
  stripFrom_eq_append leads.arrivals simple

/-- What stripping leaves of connected arcs is a connected part of them that
visits no port twice and ends where they end; stripping again changes nothing,
and arcs that visit no port twice are left as they are. -/
theorem stripCycles_structure (leads : snapshot.LeadsThrough source arcs keys) :
    (∃ kept,
      snapshot.LeadsThrough source (stripCycles snapshot source arcs) kept ∧
        (source :: kept).Nodup ∧
        kept.getLastD source = keys.getLastD source) ∧
      (stripCycles snapshot source arcs).Sublist arcs ∧
      stripCycles snapshot source (stripCycles snapshot source arcs) =
        stripCycles snapshot source arcs ∧
      ((source :: keys).Nodup → stripCycles snapshot source arcs = arcs) := by
  obtain ⟨kept, erased⟩ := erases_stripCycles leads
  have connected : snapshot.LeadsThrough source
      (stripCycles snapshot source arcs) kept := erased.leads leads
  exact ⟨⟨kept, connected, erased.nodup, erased.getLastD_eq⟩, erased.sublist,
    stripCycles_eq_self connected erased.nodup, stripCycles_eq_self leads⟩

/-- Two spans crossed back and forth: the last crossing is what is left. -/
theorem stripCycles_structure_parallelSpans :
    (∃ kept,
      ((parallelSpans []).finished rationalRuntime).LeadsThrough (.of "a" "1")
          (stripCycles ((parallelSpans []).finished rationalRuntime) (.of "a" "1")
            [⟨.span, 0, false⟩, ⟨.span, 1, true⟩, ⟨.span, 1, false⟩]) kept ∧
        (PortKey.of "a" "1" :: kept).Nodup ∧
        kept.getLastD (.of "a" "1") = .of "b" "1") ∧
      stripCycles ((parallelSpans []).finished rationalRuntime) (.of "a" "1")
        [⟨.span, 0, false⟩, ⟨.span, 1, true⟩, ⟨.span, 1, false⟩] =
          [⟨.span, 1, false⟩] := by
  have leads : ((parallelSpans []).finished rationalRuntime).LeadsThrough
      (.of "a" "1") [⟨.span, 0, false⟩, ⟨.span, 1, true⟩, ⟨.span, 1, false⟩]
      [.of "b" "1", .of "a" "1", .of "b" "1"] := by
    refine .cons ?_ ?_ (.cons ?_ ?_ (.cons ?_ ?_ (.nil _))) <;> decide +kernel
  exact ⟨(stripCycles_structure leads).1, by decide +kernel⟩

end OpticalPathPlanner
