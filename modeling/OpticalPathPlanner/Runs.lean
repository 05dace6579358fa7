import Mathlib.Data.List.Count

/-!
# Runs of a machine

A machine takes a state and an event to the next state, or refuses the event.  A
run takes a list of events one after another.  What holds of runs follows from
what holds of single steps: an invariant is kept, a preorder relates the ends, and
whatever is paid out of a budget is bounded by the budget.
-/

namespace Runs

variable {State Event : Type*} {step : State → Event → Option State}
  {state final : State} {events : List Event} {holds : State → Prop}

theorem cons_eq_some_iff {event : Event} {rest : List Event} :
    (event :: rest).foldlM step state = some final ↔
      ∃ next, step state event = some next ∧ rest.foldlM step next = some final := by
  rw [List.foldlM_cons]
  exact Option.bind_eq_some_iff

/-- Steps by admitted events that keep an invariant and go up a preorder do so in
every run of such events. -/
theorem related_of_admitted {admits : Event → Prop} (related : State → State → Prop)
    (refl : ∀ state, related state state)
    (trans : ∀ first second third, related first second → related second third →
      related first third)
    (steps : ∀ state event next, admits event → holds state →
      step state event = some next → holds next ∧ related state next)
    (admitted : ∀ event ∈ events, admits event) (first : holds state)
    (ran : events.foldlM step state = some final) :
    holds final ∧ related state final := by
  induction events generalizing state with
  | nil =>
      obtain rfl : state = final := Option.some.inj ran
      exact ⟨first, refl state⟩
  | cons event rest ih =>
      obtain ⟨next, happened, later⟩ := cons_eq_some_iff.mp ran
      rw [List.forall_mem_cons] at admitted
      obtain ⟨kept, up⟩ := steps state event next admitted.1 first happened
      obtain ⟨last, further⟩ := ih admitted.2 kept later
      exact ⟨last, trans state next final up further⟩

/-- Steps that keep an invariant and go up a preorder do so in every run. -/
theorem related (related : State → State → Prop) (refl : ∀ state, related state state)
    (trans : ∀ first second third, related first second → related second third →
      related first third)
    (steps : ∀ state event next, holds state → step state event = some next →
      holds next ∧ related state next)
    (first : holds state) (ran : events.foldlM step state = some final) :
    holds final ∧ related state final :=
  related_of_admitted related refl trans
    (fun state event next (_ : True) => steps state event next) (fun _ _ => trivial)
    first ran

/-- What every step keeps holds at the end of every run. -/
theorem invariant (holds : State → Prop)
    (kept : ∀ state event next, holds state → step state event = some next → holds next)
    (first : holds state) (ran : events.foldlM step state = some final) : holds final :=
  (related (fun _ _ => True) (fun _ => trivial) (fun _ _ _ _ _ => trivial)
    (fun state event next before happened =>
      ⟨kept state event next before happened, trivial⟩) first ran).1

/-- If every event that counts is paid for, a run has no more of them than the
budget at its start. -/
theorem budget (counts : Event → Bool) (budget : State → Nat)
    (pays : ∀ state event next, holds state → step state event = some next →
      holds next ∧ budget next + (if counts event then 1 else 0) ≤ budget state)
    (first : holds state) (ran : events.foldlM step state = some final) :
    budget final + events.countP counts ≤ budget state := by
  induction events generalizing state with
  | nil =>
      obtain rfl : state = final := Option.some.inj ran
      exact Nat.le_refl _
  | cons event rest ih =>
      obtain ⟨next, happened, later⟩ := cons_eq_some_iff.mp ran
      obtain ⟨kept, paid⟩ := pays state event next first happened
      have left := ih kept later
      rw [List.countP_cons]
      omega

/-- If every step goes down, a run is no longer than the rank of its start. -/
theorem length_le_rank (rank : State → Nat)
    (falls : ∀ state event next, holds state → step state event = some next →
      holds next ∧ rank next < rank state)
    (first : holds state) (ran : events.foldlM step state = some final) :
    rank final + events.length ≤ rank state := by
  have paid := budget (fun _ => true) rank
    (fun state event next before happened => falls state event next before happened)
    first ran
  simpa using paid

/-- If off the goal some step goes down, some run reaches the goal. -/
theorem reaches (goal : State → Prop) (rank : State → Nat)
    (moves : ∀ state, holds state → ¬ goal state → ∃ event next,
      step state event = some next ∧ holds next ∧ rank next < rank state)
    (first : holds state) :
    ∃ (events : List Event) (final : State),
      events.foldlM step state = some final ∧ goal final := by
  induction left : rank state using Nat.strongRecOn generalizing state with
  | ind bound ih =>
      by_cases there : goal state
      · exact ⟨[], state, rfl, there⟩
      obtain ⟨event, next, happened, kept, lower⟩ := moves state first there
      obtain ⟨events, final, ran, reached⟩ := ih (rank next) (left ▸ lower) kept rfl
      exact ⟨event :: events, final, cons_eq_some_iff.mpr ⟨next, happened, ran⟩, reached⟩

end Runs
