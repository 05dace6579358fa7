import Mathlib

/-!
# Searches that drop dominated routes

Routes are lists of arcs from a fixed start.  A search settles routes one
after the other and drops a route when a settled one beats it.  This file says
when such a search still finds a goal: some way to a goal has to survive every
exchange with a route that beats one of its prefixes.

The second half gives one source of such exchanges.  In a system of loop-free
trails whose steps are monotone and never improve a value, the end of a beaten
trail can always be replayed from a prefix of the trail that beats it.
-/

namespace DominanceSearch

variable {A : Type}

/-- What a search has seen: every valid continuation of a settled route is
settled, is still pending, or is beaten by a settled route. -/
structure Explores (valid terminal settled pending : List A → Prop)
    (beats : List A → List A → Prop) : Prop where
  root : valid [] → settled [] ∨ pending [] ∨
    ∃ other, settled other ∧ beats other []
  step : ∀ route arc, settled route → ¬ terminal route →
    valid (route ++ [arc]) → settled (route ++ [arc]) ∨
      pending (route ++ [arc]) ∨
      ∃ other, settled other ∧ beats other (route ++ [arc])
  closed : ∀ route arc, settled (route ++ [arc]) → settled route

/-- A route from which a goal can be reached in spite of pruning: a goal, or a
route with a next arc after which the same holds, and after which it also holds
of some prefix of every route that beats the extended one. -/
inductive Robust (valid terminal goal : List A → Prop)
    (beats : List A → List A → Prop) : List A → Prop
  | goal {route : List A} (reached : goal route) :
      Robust valid terminal goal beats route
  | step {route : List A} {arc : A} (notTerminal : ¬ terminal route)
      (nextValid : valid (route ++ [arc]))
      (next : Robust valid terminal goal beats (route ++ [arc]))
      (front : List A → List A)
      (isPrefix : ∀ other, beats other (route ++ [arc]) →
        front other <+: other)
      (exchanged : ∀ other, beats other (route ++ [arc]) →
        Robust valid terminal goal beats (front other)) :
      Robust valid terminal goal beats route

section Exploration

variable {valid terminal settled pending goal : List A → Prop}
  {beats : List A → List A → Prop}

theorem Explores.settled_of_prefix
    (explores : Explores valid terminal settled pending beats)
    {front route : List A} (isPrefix : front <+: route)
    (routeSettled : settled route) : settled front := by
  obtain ⟨rest, rfl⟩ := isPrefix
  induction rest using List.reverseRecOn with
  | nil => simpa using routeSettled
  | append_singleton rest arc ih =>
      rw [← List.append_assoc] at routeSettled
      exact ih (explores.closed _ _ routeSettled)

/-- A search that has settled a robust route has settled a goal, or a robust
route is still pending. -/
theorem Explores.reaches
    (explores : Explores valid terminal settled pending beats)
    {route : List A} (robust : Robust valid terminal goal beats route)
    (routeSettled : settled route) :
    (∃ found, settled found ∧ goal found) ∨
      ∃ waiting, pending waiting ∧
        Robust valid terminal goal beats waiting := by
  induction robust with
  | goal reached => exact .inl ⟨_, routeSettled, reached⟩
  | step notTerminal nextValid next front isPrefix exchanged ih ihExchanged =>
      rcases explores.step _ _ routeSettled notTerminal nextValid with
        nextSettled | nextPending | ⟨other, otherSettled, beaten⟩
      · exact ih nextSettled
      · exact .inr ⟨_, nextPending, next⟩
      · exact ihExchanged other beaten
          (explores.settled_of_prefix (isPrefix other beaten) otherSettled)

/-- A robust route can be continued to a goal. -/
theorem Robust.exists_goal {route : List A}
    (robust : Robust valid terminal goal beats route) :
    ∃ rest, goal (route ++ rest) := by
  induction robust with
  | goal reached => exact ⟨[], by simpa using reached⟩
  | step notTerminal nextValid next front isPrefix exchanged ih ihExchanged =>
      obtain ⟨rest, reached⟩ := ih
      exact ⟨_ :: rest, by simpa using reached⟩

/-- A search that starts from a robust route has settled a goal, or has a
pending route that leads to one. -/
theorem Explores.reaches_from_root
    (explores : Explores valid terminal settled pending beats)
    (rootValid : valid []) (onlyItself : ∀ other, beats other [] → other = [])
    (robust : Robust valid terminal goal beats []) :
    (∃ found, settled found ∧ goal found) ∨
      ∃ waiting rest, pending waiting ∧ goal (waiting ++ rest) := by
  have fromSettled (rootSettled : settled []) :
      (∃ found, settled found ∧ goal found) ∨
        ∃ waiting rest, pending waiting ∧ goal (waiting ++ rest) := by
    rcases explores.reaches robust rootSettled with
      found | ⟨waiting, isPending, waitingRobust⟩
    · exact .inl found
    · obtain ⟨rest, reached⟩ := waitingRobust.exists_goal
      exact .inr ⟨waiting, rest, isPending, reached⟩
  rcases explores.root rootValid with
    rootSettled | rootPending | ⟨other, otherSettled, beaten⟩
  · exact fromSettled rootSettled
  · obtain ⟨rest, reached⟩ := robust.exists_goal
    exact .inr ⟨[], rest, rootPending, reached⟩
  · rw [onlyItself other beaten] at otherSettled
    exact fromSettled otherSettled

/-- Routes to a goal are robust when the end of a beaten route can be replayed,
without getting longer, from a prefix of the route that beats it. -/
theorem robust_of_exchange
    (opened : ∀ route arc rest, goal (route ++ arc :: rest) →
      ¬ terminal route ∧ valid (route ++ [arc]))
    (exchange : ∀ other route rest, beats other route →
      goal (route ++ rest) → ∃ front back, front <+: other ∧
        back.length ≤ rest.length ∧ goal (front ++ back))
    {route rest : List A} (reached : goal (route ++ rest)) :
    Robust valid terminal goal beats route := by
  induction length : rest.length using Nat.strong_induction_on
    generalizing route rest with
  | _ size ih =>
      cases rest with
      | nil => exact .goal (by simpa using reached)
      | cons arc rest =>
          obtain ⟨notTerminal, nextValid⟩ := opened route arc rest reached
          have reachedNext : goal ((route ++ [arc]) ++ rest) := by
            simpa using reached
          have shorter : rest.length < size := by
            simp [← length]
          have replay := fun other beaten =>
            exchange other (route ++ [arc]) rest beaten reachedNext
          choose! front back isPrefix bounded replayed using replay
          exact .step notTerminal nextValid (ih _ shorter reachedNext rfl) front
            isPrefix fun other beaten =>
              ih _ ((bounded other beaten).trans_lt shorter)
                (replayed other beaten) rfl

/-- A goal can be reached in spite of pruning exactly when every search that
drops beaten routes only, and leaves nothing pending, settles a goal. -/
theorem robust_iff_explores :
    Robust valid terminal goal beats [] ↔
      ∀ settled, Explores valid terminal settled (fun _ => False) beats →
        settled [] → ∃ found, settled found ∧ goal found := by
  constructor
  · intro robust settled explores rootSettled
    rcases explores.reaches robust rootSettled with found | ⟨_, impossible, _⟩
    · exact found
    · exact impossible.elim
  · intro finds
    by_contra notRobust
    -- The routes without a robust prefix are such a search, and hold no goal.
    let lost : List A → Prop := fun route =>
      ∀ front, front <+: route → ¬ Robust valid terminal goal beats front
    have rootLost : lost [] := by
      intro front isPrefix
      rw [List.prefix_nil.mp isPrefix]
      exact notRobust
    have explores : Explores valid terminal lost (fun _ => False) beats := by
      refine ⟨fun _ => .inl rootLost, ?_, ?_⟩
      · intro route arc routeLost notTerminal nextValid
        by_cases next : Robust valid terminal goal beats (route ++ [arc])
        · right
          right
          by_contra kept
          have replay : ∀ other, beats other (route ++ [arc]) →
              ∃ front, front <+: other ∧
                Robust valid terminal goal beats front := by
            intro other beaten
            by_contra noFront
            exact kept ⟨other, fun front isPrefix robust =>
              noFront ⟨front, isPrefix, robust⟩, beaten⟩
          choose! front isPrefix exchanged using replay
          exact routeLost route List.prefix_rfl
            (.step notTerminal nextValid next front isPrefix exchanged)
        · left
          intro front isPrefix
          rcases List.prefix_concat_iff.mp isPrefix with rfl | shorter
          · exact next
          · exact routeLost front shorter
      · intro route arc longer front isPrefix
        exact longer front (isPrefix.trans (List.prefix_append _ _))
    obtain ⟨found, foundLost, reached⟩ := finds lost explores rootLost
    exact foundLost found List.prefix_rfl (.goal reached)

end Exploration

/-! ### Loop-free trails -/

/-- A transition system with places, in which better values take better
steps, and no step improves a value. -/
structure TrailSystem (V A P : Type) where
  start : V → Prop
  sound : V → Prop
  step : V → A → V → Prop
  place : V → P
  better : V → V → Prop
  sound_start : ∀ value, start value → sound value
  sound_step : ∀ value arc next, sound value → step value arc next → sound next
  trans : ∀ first second third, better first second → better second third →
    better first third
  worsens : ∀ value arc next, sound value → step value arc next →
    better value next
  monotone : ∀ strong weak arc next, sound strong → sound weak →
    better strong weak → place strong = place weak → step weak arc next →
      ∃ after, step strong arc after ∧ better after next ∧
        place after = place next

namespace TrailSystem

variable {V P : Type} (system : TrailSystem V A P)

/-- The arcs and the values of a trail that visits no place twice; the values
are given from the last one back. -/
inductive Trail : List A → List V → Prop
  | start {value : V} (starts : system.start value) : Trail [] [value]
  | step {arcs : List A} {value next : V} {values : List V} {arc : A}
      (before : Trail arcs (value :: values))
      (steps : system.step value arc next)
      (loopFree : system.place next ∉ (value :: values).map system.place) :
      Trail (arcs ++ [arc]) (next :: value :: values)

variable {system}

theorem Trail.sound {arcs : List A} {values : List V}
    (trail : system.Trail arcs values) :
    ∀ value ∈ values, system.sound value := by
  induction trail with
  | start starts =>
      intro value member
      rw [List.mem_singleton] at member
      exact member ▸ system.sound_start _ starts
  | step before steps loopFree ih =>
      intro value member
      rcases List.mem_cons.mp member with rfl | earlier
      · exact system.sound_step _ _ _ (ih _ (List.mem_cons_self ..)) steps
      · exact ih value earlier

/-- A place on a trail is the end of a prefix of it, with a value that the
trail never improves on later. -/
theorem Trail.cut {arcs : List A} {value : V} {values : List V}
    (trail : system.Trail arcs (value :: values)) {place : P}
    (visited : place ∈ (value :: values).map system.place) :
    ∃ front earlier rest, front <+: arcs ∧
      system.Trail front (earlier :: rest) ∧ system.place earlier = place ∧
      (earlier = value ∨ system.better earlier value) := by
  induction arcs using List.reverseRecOn generalizing value values with
  | nil =>
      have only : values = [] := by
        generalize sameArcs : ([] : List A) = arcs at trail
        cases trail with
        | start starts => rfl
        | step before steps loopFree => simp at sameArcs
      subst only
      rw [List.map_singleton, List.mem_singleton] at visited
      exact ⟨[], value, [], List.prefix_rfl, trail, visited.symm, .inl rfl⟩
  | append_singleton arcs arc ih =>
      by_cases here : system.place value = place
      · exact ⟨_, value, values, List.prefix_rfl, trail, here, .inl rfl⟩
      · generalize sameArcs : arcs ++ [arc] = whole at trail
        cases trail with
        | start starts => simp at sameArcs
        | @step shorter previous _ rest last before steps loopFree =>
            obtain ⟨rfl, sameArc⟩ := List.append_inj' sameArcs rfl
            have visitedBefore :
                place ∈ (previous :: rest).map system.place := by
              rcases List.mem_cons.mp visited with atEnd | earlier
              · exact (here atEnd.symm).elim
              · exact earlier
            obtain ⟨front, earlier, behind, isPrefix, cutTrail, atPlace,
              notWorse⟩ := ih before visitedBefore
            have worse := system.worsens _ _ _
              (before.sound _ (List.mem_cons_self ..)) steps
            refine ⟨front, earlier, behind,
              isPrefix.trans (List.prefix_append _ _), cutTrail, atPlace,
              .inr ?_⟩
            rcases notWorse with rfl | better
            · exact worse
            · exact system.trans _ _ _ better worse

/-- The arcs lead from one value to another, over any places. -/
inductive Continues (system : TrailSystem V A P) : V → List A → V → Prop
  | refl {value : V} : Continues system value [] value
  | step {value next last : V} {arc : A} {rest : List A}
      (steps : system.step value arc next)
      (after : Continues system next rest last) :
      Continues system value (arc :: rest) last

/-- The continuation of a beaten value can be replayed from a prefix of the
trail that beats it: whenever the next arc would step on a place of the trail,
the trail is cut back to it instead. -/
theorem Trail.replay {arcs rest : List A} {strong weak last : V}
    {values : List V} (trail : system.Trail arcs (strong :: values))
    (weakSound : system.sound weak) (better : system.better strong weak)
    (samePlace : system.place strong = system.place weak)
    (continues : Continues system weak rest last) :
    ∃ front back value others, front <+: arcs ∧
      back.length ≤ rest.length ∧
      system.Trail (front ++ back) (value :: others) ∧
      system.better value last ∧ system.place value = system.place last := by
  induction continues generalizing arcs strong values with
  | refl =>
      exact ⟨arcs, [], strong, values, List.prefix_rfl, le_rfl,
        by simpa using trail, better, samePlace⟩
  | @step weak next last arc rest steps after ih =>
      have strongSound := trail.sound _ (List.mem_cons_self ..)
      have nextSound := system.sound_step _ _ _ weakSound steps
      by_cases visited :
          system.place next ∈ (strong :: values).map system.place
      · obtain ⟨front, earlier, others, isPrefix, cutTrail, atPlace,
          notWorse⟩ := trail.cut visited
        have earlierBetter : system.better earlier next := by
          have nextWorse := system.trans _ _ _ better
            (system.worsens _ _ _ weakSound steps)
          rcases notWorse with rfl | improved
          · exact nextWorse
          · exact system.trans _ _ _ improved nextWorse
        obtain ⟨shorter, back, value, behind, shorterPrefix, bounded, replayed,
          valueBetter, valuePlace⟩ :=
          ih cutTrail nextSound earlierBetter atPlace
        exact ⟨shorter, back, value, behind, shorterPrefix.trans isPrefix,
          bounded.trans (by simp), replayed, valueBetter, valuePlace⟩
      · obtain ⟨stepped, strongSteps, steppedBetter, steppedPlace⟩ :=
          system.monotone _ _ _ _ strongSound weakSound better samePlace steps
        have extended : system.Trail (arcs ++ [arc])
            (stepped :: strong :: values) :=
          .step trail strongSteps (by rwa [steppedPlace])
        obtain ⟨front, back, value, behind, frontPrefix, bounded, replayed,
          valueBetter, valuePlace⟩ :=
          ih extended nextSound steppedBetter steppedPlace
        rcases List.prefix_concat_iff.mp frontPrefix with rfl | frontPrefix
        · refine ⟨arcs, arc :: back, value, behind, List.prefix_rfl, ?_, ?_,
            valueBetter, valuePlace⟩
          · simpa using bounded
          · simpa using replayed
        · exact ⟨front, back, value, behind, frontPrefix,
            bounded.trans (by simp), replayed, valueBetter, valuePlace⟩

end TrailSystem

end DominanceSearch
