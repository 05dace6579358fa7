import Mathlib.Data.List.Nodup

/-!
# Erasing the loops of a walk

A walk reads edges one by one and stands on a vertex after each of them.  An
eraser keeps a part of the edges read: it appends the next edge when that
arrives at a vertex it does not keep, and it cuts back to the earlier visit
when it does.  What is kept is again a walk, on pairwise distinct vertices,
with the ends of the walk that was read.
-/

namespace LoopErasure

variable {Edge Vertex : Type*} {leaves arrives : Edge → Vertex → Prop}
  {start : Vertex} {edges kept cycle rest : List Edge} {edge : Edge}
  {path visited loop later : List Vertex} {next : Vertex}

/-! ### Walks -/

/-- The edges lead from a vertex through the listed ones, one after each edge. -/
inductive Leads (leaves arrives : Edge → Vertex → Prop) :
    Vertex → List Edge → List Vertex → Prop
  | nil (start : Vertex) : Leads leaves arrives start [] []
  | cons {start next : Vertex} {edge : Edge} {edges : List Edge}
      {path : List Vertex} (departs : leaves edge start)
      (lands : arrives edge next) (after : Leads leaves arrives next edges path) :
      Leads leaves arrives start (edge :: edges) (next :: path)

theorem Leads.length_eq (walk : Leads leaves arrives start edges path) :
    edges.length = path.length := by
  induction walk with
  | nil => rfl
  | cons _ _ _ ih => simp only [List.length_cons, ih]

/-- A walk goes on from the vertex it ends on. -/
theorem Leads.append (walk : Leads leaves arrives start edges path)
    (onward : Leads leaves arrives (path.getLastD start) rest later) :
    Leads leaves arrives start (edges ++ rest) (path ++ later) := by
  induction walk with
  | nil => exact onward
  | cons departs lands _ ih =>
      rw [List.getLastD_cons] at onward
      exact .cons departs lands (ih onward)

theorem Leads.split (aligned : kept.length = visited.length)
    (walk : Leads leaves arrives start (kept ++ cycle) (visited ++ loop)) :
    Leads leaves arrives start kept visited ∧
      Leads leaves arrives (visited.getLastD start) cycle loop := by
  induction kept generalizing start visited with
  | nil =>
      obtain rfl := List.length_eq_zero_iff.mp aligned.symm
      exact ⟨.nil start, walk⟩
  | cons edge kept ih =>
      cases visited with
      | nil => cases aligned
      | cons next visited =>
          cases walk with
          | cons departs lands after =>
              obtain ⟨before, onward⟩ := ih (Nat.succ.inj aligned) after
              rw [List.getLastD_cons]
              exact ⟨.cons departs lands before, onward⟩

theorem leads_concat_iff :
    Leads leaves arrives start (edges ++ [edge]) (path ++ [next]) ↔
      Leads leaves arrives start edges path ∧
        leaves edge (path.getLastD start) ∧ arrives edge next := by
  constructor
  · intro walk
    have aligned : edges.length = path.length := by
      simpa using walk.length_eq
    obtain ⟨before, onward⟩ := walk.split aligned
    cases onward with
    | cons departs lands _ => exact ⟨before, departs, lands⟩
  · rintro ⟨before, departs, lands⟩
    exact before.append (.cons departs lands (.nil next))

theorem Leads.unique {other : List Vertex}
    (functional : ∀ edge first second, arrives edge first →
      arrives edge second → first = second)
    (walk : Leads leaves arrives start edges path)
    (again : Leads leaves arrives start edges other) : path = other := by
  induction walk generalizing other with
  | nil => cases again; rfl
  | cons _ lands _ ih =>
      cases again with
      | cons _ landsAgain after =>
          obtain rfl := functional _ _ _ lands landsAgain
          rw [ih after]

/-! ### Erasing -/

/-- The edges kept, and the vertices they lead through, after reading a walk.
A cut drops the cycle that the edge read closes, with that edge. -/
inductive Erases (start : Vertex) :
    List Edge → List Vertex → List Edge → List Vertex → Prop
  | start : Erases start [] [] [] []
  | keep {edges kept : List Edge} {path visited : List Vertex} {edge : Edge}
      {next : Vertex} (before : Erases start edges path kept visited)
      (fresh : next ∉ start :: visited) :
      Erases start (edges ++ [edge]) (path ++ [next]) (kept ++ [edge])
        (visited ++ [next])
  | cut {edges kept cycle : List Edge} {path visited loop : List Vertex}
      {edge : Edge} {next : Vertex}
      (before : Erases start edges path (kept ++ cycle) (visited ++ loop))
      (aligned : kept.length = visited.length)
      (returns : visited.getLastD start = next) :
      Erases start (edges ++ [edge]) (path ++ [next]) kept visited

/-- The walk up to a visit ends on the vertex visited. -/
theorem getLastD_take {index : Nat}
    (standsOn : (start :: visited)[index]? = some next) :
    (visited.take index).getLastD start = next := by
  cases index with
  | zero => exact Option.some.inj standsOn
  | succ index =>
      rw [List.getElem?_cons_succ] at standsOn
      rw [List.take_add_one, standsOn, Option.toList_some, List.getLastD_concat]

/-- A vertex that is kept splits what is kept at its visit. -/
theorem Erases.returnTo [DecidableEq Vertex]
    (before : Erases start edges path kept visited)
    (aligned : kept.length = visited.length) (again : next ∈ start :: visited) :
    Erases start (edges ++ [edge]) (path ++ [next])
      (kept.take ((start :: visited).idxOf next))
      (visited.take ((start :: visited).idxOf next)) := by
  have standsOn := List.getElem?_idxOf again
  generalize (start :: visited).idxOf next = index at standsOn
  rw [← List.take_append_drop index kept,
    ← List.take_append_drop index visited] at before
  refine before.cut ?_ (getLastD_take standsOn)
  rw [List.length_take, List.length_take, aligned]

theorem Erases.length_eq (erased : Erases start edges path kept visited) :
    edges.length = path.length ∧ kept.length = visited.length := by
  induction erased with
  | start => exact ⟨rfl, rfl⟩
  | keep _ _ ih => simp only [List.length_append, List.length_singleton, ih, and_self]
  | cut _ aligned _ ih =>
      exact ⟨by simp only [List.length_append, List.length_singleton, ih.1], aligned⟩

theorem Erases.sublist (erased : Erases start edges path kept visited) :
    kept.Sublist edges := by
  induction erased with
  | start => exact .slnil
  | keep _ _ ih => exact ih.append_right _
  | cut _ _ _ ih =>
      exact ((List.sublist_append_left ..).trans ih).trans
        (List.sublist_append_left ..)

theorem Erases.nodup (erased : Erases start edges path kept visited) :
    (start :: visited).Nodup := by
  induction erased with
  | start => exact List.nodup_singleton start
  | keep _ fresh ih =>
      rw [← List.cons_append]
      exact ih.append (List.nodup_singleton _) (List.disjoint_singleton.mpr fresh)
  | cut _ _ _ ih =>
      rw [← List.cons_append] at ih
      exact (List.nodup_append.mp ih).1

theorem Erases.getLastD_eq (erased : Erases start edges path kept visited) :
    visited.getLastD start = path.getLastD start := by
  induction erased with
  | start => rfl
  | keep _ _ _ => rw [List.getLastD_concat, List.getLastD_concat]
  | cut _ _ returns _ => rw [returns, List.getLastD_concat]

/-- What an eraser keeps of a walk is a walk. -/
theorem Erases.leads (erased : Erases start edges path kept visited)
    (walk : Leads leaves arrives start edges path) :
    Leads leaves arrives start kept visited := by
  induction erased with
  | start => exact walk
  | keep before _ ih =>
      obtain ⟨earlier, departs, lands⟩ := leads_concat_iff.mp walk
      refine leads_concat_iff.mpr ⟨ih earlier, ?_, lands⟩
      rwa [before.getLastD_eq]
  | cut _ aligned _ ih =>
      exact ((ih (leads_concat_iff.mp walk).1).split aligned).1

end LoopErasure
