import OpticalPathPlanner.AlternativeRoutes
import OpticalPathPlanner.OptimalRoutes
import OpticalPathPlanner.StrippedCycles

/-!
# Removing the cycles of a walk

A walk that the rules of the single arcs accept may stand on a port again and
again.  Stripping removes its cycles; what is left is accepted and no worse as
long as no removed cycle converts or regenerates.  A cycle that does can leave
the label better than it found it, and then the walk goes where its stripped
arcs do not.
-/

namespace OpticalPathPlanner

open LoopErasure

variable {K : Type} [Field K] [LinearOrder K]

namespace SearchContext

/-! ### Walks without the checks for loops -/

/-- The rules of the single arcs accept the arcs from a port, and the last label
is the given one. -/
inductive Accepts (ctx : SearchContext K) (startPort : Nat) :
    List ArcRef → Label K → Prop
  | start {label : Label K} (started : ctx.StartStep startPort label) :
      Accepts ctx startPort [] label
  | step {arcs : List ArcRef} {current next : Label K} {arc : ArcRef}
      (before : Accepts ctx startPort arcs current)
      (follows : ctx.Follows current arc next) :
      Accepts ctx startPort (arcs ++ [arc]) next

variable {ctx : SearchContext K} {startPort : Nat} {source : PortKey}
  {arcs front back : List ArcRef} {arc : ArcRef}
  {label current next other : Label K}

theorem LabelStep.unique (first : ctx.LabelStep current arc label)
    (second : ctx.LabelStep current arc next) : label = next := by
  have port := first.port_eq second
  obtain ⟨kind, index, reversed⟩ := arc
  cases kind with
  | crossConnect =>
      have first : ctx.CrossConnectStep current index label := first
      have second : ctx.CrossConnectStep current index next := second
      have cost := first.cost
      rw [port, second.cost] at cost
      rw [first.next_eq, second.next_eq, port, ← Option.some.inj cost]
  | span =>
      have first : ctx.SpanStep current ⟨index, reversed⟩ label := first
      have second : ctx.SpanStep current ⟨index, reversed⟩ next := second
      have cost := first.cost
      rw [port, second.cost] at cost
      have distance := first.distance
      rw [second.distance] at distance
      rw [first.next_eq, second.next_eq, port, ← Option.some.inj cost,
        ← Option.some.inj distance]

namespace Accepts

theorem nil_iff : ctx.Accepts startPort [] label ↔
    ctx.StartStep startPort label := by
  refine ⟨fun accepted => ?_, .start⟩
  generalize none_ : ([] : List ArcRef) = arcs at accepted
  cases accepted with
  | start started => exact started
  | step before follows => simp at none_

theorem concat_iff : ctx.Accepts startPort (arcs ++ [arc]) next ↔
    ∃ current, ctx.Accepts startPort arcs current ∧
      ctx.Follows current arc next := by
  constructor
  · intro accepted
    generalize same : arcs ++ [arc] = read at accepted
    cases accepted with
    | start started => simp at same
    | step before follows =>
        obtain ⟨rfl, last⟩ := List.append_inj' same rfl
        obtain rfl := List.singleton_inj.mp last
        exact ⟨_, before, follows⟩
  · rintro ⟨current, before, follows⟩
    exact before.step follows

theorem unique (first : ctx.Accepts startPort arcs label)
    (second : ctx.Accepts startPort arcs other) : label = other := by
  induction first generalizing other with
  | start started =>
      rw [started.label_eq, (nil_iff.mp second).label_eq]
  | step before follows ih =>
      obtain ⟨current, earlier, taken⟩ := concat_iff.mp second
      obtain rfl := ih earlier
      exact follows.2.unique taken.2

theorem of_append (accepted : ctx.Accepts startPort (front ++ back) label) :
    ∃ earlier, ctx.Accepts startPort front earlier := by
  induction back using List.reverseRecOn generalizing label with
  | nil => exact ⟨label, by simpa using accepted⟩
  | append_singleton back arc ih =>
      rw [← List.append_assoc] at accepted
      obtain ⟨current, before, _⟩ := concat_iff.mp accepted
      exact ih before

/-- What every step over the arcs that follow keeps or raises. -/
theorem related (relation : Label K → Label K → Prop)
    (refl : ∀ label, relation label label)
    (trans : ∀ first second third, relation first second →
      relation second third → relation first third)
    (steps : ∀ arc ∈ back, ∀ current next, ctx.Follows current arc next →
      relation current next)
    (before : ctx.Accepts startPort front label)
    (accepted : ctx.Accepts startPort (front ++ back) other) :
    relation label other := by
  induction back using List.reverseRecOn generalizing other with
  | nil =>
      rw [List.append_nil] at accepted
      rw [before.unique accepted]
      exact refl other
  | append_singleton back arc ih =>
      rw [← List.append_assoc] at accepted
      obtain ⟨current, earlier, follows⟩ := concat_iff.mp accepted
      refine trans _ current _ (ih ?_ earlier) (steps arc (by simp) _ _ follows)
      intro passed member
      exact steps passed (List.mem_append_left _ member)

theorem noiseSound [IsStrictOrderedRing K] (formed : ctx.snapshot.WellFormed)
    (accepted : ctx.Accepts startPort arcs label) : ctx.NoiseSound label := by
  induction accepted with
  | start started => exact .start started
  | step _ follows ih => exact follows.noiseSound formed ih

end Accepts

/-! ### The ports of an accepted walk -/

/-- A step departs from the port of its label and arrives at the next one. -/
theorem Follows.ports (formed : ctx.snapshot.WellFormed)
    (follows : ctx.Follows current arc next) :
    departurePort ctx.snapshot arc = .ok (ctx.portKey current) ∧
      arrivalPort ctx.snapshot arc = .ok (ctx.portKey next) ∧
      ctx.snapshot.portIndex (ctx.portKey next) = some next.portIndex := by
  obtain ⟨leaves, step⟩ := follows
  obtain ⟨kind, index, reversed⟩ := arc
  cases kind with
  | crossConnect =>
      have step : ctx.CrossConnectStep current index next := step
      obtain ⟨record, target, atIndex, departs, arrives⟩ :=
        formed.crossConnectArcs _ index (mem_outgoingArcs_crossConnect.mp leaves).1
      have lands : ctx.snapshot.portIndex (ctx.crossConnect index).toPort =
          some next.portIndex := step.target
      rw [crossConnect_eq atIndex] at lands
      have key : ctx.portKey next = record.toPort := port_key_of_portIndex lands
      have front : ctx.portKey current = record.fromPort :=
        port_key_of_portIndex departs
      simp only [departurePort, arrivalPort, atIndex, key, front, true_and]
      exact lands
  | span =>
      have step : ctx.SpanStep current ⟨index, reversed⟩ next := step
      obtain ⟨record, target, atIndex, departs, arrives⟩ :=
        formed.spanArcs _ ⟨index, reversed⟩ (mem_outgoingArcs_span.mp leaves)
      have lands := step.target
      rw [spanTarget, span_eq atIndex] at lands
      have key : ctx.portKey next = record.arrival reversed :=
        port_key_of_portIndex lands
      have front : ctx.portKey current = record.departure reversed :=
        port_key_of_portIndex departs
      simp only [departurePort, arrivalPort, atIndex, key, front, true_and]
      exact lands

/-- An accepted walk leads from the source through ports that the snapshot
has, to the port of its label. -/
theorem Accepts.leads (formed : ctx.snapshot.WellFormed)
    (resolved : ctx.snapshot.portIndex source = some startPort)
    (accepted : ctx.Accepts startPort arcs label) :
    (∃ keys, ctx.snapshot.LeadsThrough source arcs keys ∧
        keys.getLastD source = ctx.portKey label) ∧
      ctx.snapshot.portIndex (ctx.portKey label) = some label.portIndex := by
  induction accepted with
  | @start label started =>
      have port := congrArg Label.portIndex started.label_eq
      have key : ctx.portKey label = source := by
        rw [portKey, port]
        exact port_key_of_portIndex resolved
      exact ⟨⟨[], .nil source, key.symm⟩, by rw [key, port]; exact resolved⟩
  | step before follows ih =>
      obtain ⟨⟨keys, leads, last⟩, -⟩ := ih
      obtain ⟨departs, lands, found⟩ := follows.ports formed
      refine ⟨⟨keys ++ [_], leads_concat_iff.mpr ⟨leads, ?_, lands⟩,
        List.getLastD_concat ..⟩, found⟩
      rw [last]
      exact departs

/-- The stripped arcs lead to the port that the walk ends on. -/
theorem Accepts.port_stripped {route : Label K} (formed : ctx.snapshot.WellFormed)
    (resolved : ctx.snapshot.portIndex source = some startPort)
    (accepted : ctx.Accepts startPort arcs label)
    (stripped : ctx.Accepts startPort
      (stripCycles ctx.snapshot source arcs) route) :
    route.portIndex = label.portIndex := by
  obtain ⟨⟨keys, leads, last⟩, found⟩ := accepted.leads formed resolved
  obtain ⟨⟨ports, route_leads, ends⟩, standsOn⟩ := stripped.leads formed resolved
  obtain ⟨kept, erased⟩ := erases_stripCycles leads
  have same : ports = kept := by
    refine Leads.unique (fun passed first second lands again => ?_) route_leads
      (erased.leads leads)
    rw [lands] at again
    exact Except.ok.inj again
  have key : ctx.portKey route = ctx.portKey label := by
    rw [← ends, same, erased.getLastD_eq, last]
  rw [key, found] at standsOn
  exact (Option.some.inj standsOn).symm

/-- The next arc is kept, or it closes a cycle that is dropped with it. -/
theorem Accepts.stripCycles_cases (formed : ctx.snapshot.WellFormed)
    (resolved : ctx.snapshot.portIndex source = some startPort)
    (accepted : ctx.Accepts startPort arcs current)
    (follows : ctx.Follows current arc next) :
    stripCycles ctx.snapshot source (arcs ++ [arc]) =
        stripCycles ctx.snapshot source arcs ++ [arc] ∨
      ∃ cycle, stripCycles ctx.snapshot source arcs =
        stripCycles ctx.snapshot source (arcs ++ [arc]) ++ cycle := by
  obtain ⟨⟨keys, leads, -⟩, -⟩ := accepted.leads formed resolved
  obtain ⟨kept, -, stripped⟩ :=
    stripCycles_concat leads (follows.ports formed).2.1
  split_ifs at stripped with again
  · refine .inr ⟨(stripCycles ctx.snapshot source arcs).drop
      ((source :: kept).idxOf (ctx.portKey next)), ?_⟩
    rw [stripped, List.take_append_drop]
  · exact .inl stripped

/-! ### Accepted walks on distinct ports -/

theorem accepts_of_labelAt (found : ctx.labelAt startPort arcs = some label) :
    ctx.Accepts startPort arcs label := by
  obtain ⟨ancestors, walked⟩ := labelAt_eq_some_iff.mp found
  clear found
  induction arcs using List.reverseRecOn generalizing label ancestors with
  | nil =>
      obtain ⟨start, started, same⟩ := walk_nil.mp walked
      obtain ⟨rfl, -⟩ := List.cons.inj same
      exact .start (yields_startLabel_iff.mp started)
  | append_singleton arcs arc ih =>
      obtain ⟨current, earlier, next, before, same, leaves, yielded⟩ :=
        walk_concat.mp walked
      obtain ⟨rfl, -⟩ := List.cons.inj same
      exact (ih _ before).step ⟨leaves, (yields_expandArc_iff.mp yielded).1⟩

/-- An accepted walk that visits no port twice passes every check of the
search. -/
theorem Accepts.walk_of_simple {keys : List PortKey}
    (formed : ctx.snapshot.WellFormed)
    (unlimited : ctx.constraints.maxMembersPerFailureDomain = [])
    (resolved : ctx.snapshot.portIndex source = some startPort)
    (accepted : ctx.Accepts startPort arcs label)
    (leads : ctx.snapshot.LeadsThrough source arcs keys)
    (simple : (source :: keys).Nodup) :
    ∃ ancestors, ctx.walk startPort arcs = some (label :: ancestors) ∧
      ((label :: ancestors).map ctx.portKey).reverse = source :: keys := by
  induction accepted generalizing keys with
  | @start label started =>
      cases leads
      have port := congrArg Label.portIndex started.label_eq
      have key : ctx.portKey label = source := by
        rw [portKey, port]
        exact port_key_of_portIndex resolved
      exact ⟨[], walk_nil.mpr ⟨_, yields_startLabel_iff.mpr started, rfl⟩,
        by simp [key]⟩
  | @step arcs current next arc before follows ih =>
      obtain rfl | ⟨passed, key, rfl⟩ := keys.eq_nil_or_concat
      · cases List.append_eq_nil_iff.mp (List.length_eq_zero_iff.mp leads.length_eq)
          |>.2
      rw [List.concat_eq_append] at leads simple ⊢
      obtain ⟨earlier, -, lands⟩ := leads_concat_iff.mp leads
      rw [← List.cons_append] at simple
      obtain ⟨ancestors, walked, spelled⟩ :=
        ih earlier (List.nodup_append.mp simple).1
      have arrives := (follows.ports formed).2.1
      obtain rfl := Except.ok.inj (arrives.symm.trans lands)
      have fresh : ctx.portKey next ∉ source :: passed := fun again =>
        List.disjoint_of_nodup_append simple again (List.mem_singleton_self _)
      have loopFree : next.portIndex ∉
          (current :: ancestors).map Label.portIndex := by
        intro again
        obtain ⟨visited, member, same⟩ := List.mem_map.mp again
        apply fresh
        rw [← spelled, List.mem_reverse, portKey, ← same]
        exact List.mem_map_of_mem member
      refine ⟨_, walk_concat_of_follows formed unlimited walked follows loopFree, ?_⟩
      rw [List.map_cons, List.reverse_cons, spelled, List.cons_append]

/-! ### The law of cycle removal -/

/-- The stripped arcs pass every check of the search, end on the same port and
are no worse. -/
def RemovalHolds (ctx : SearchContext K) (source : PortKey) (startPort : Nat)
    (arcs : List ArcRef) (label : Label K) : Prop :=
  ∃ route, ctx.labelAt startPort (stripCycles ctx.snapshot source arcs) =
      some route ∧
    route.portIndex = label.portIndex ∧ Label.Covers route label

/-- No conversion or regeneration in a removed cycle is missed.  On a return to
a port over a cycle with one of them, the earlier visit had a segment and
channels no worse; and where the open segment has another profile than that of
the stripped arcs, the latter reaches over the next span as well. -/
structure ResetsUnneeded (ctx : SearchContext K) (source : PortKey)
    (startPort : Nat) (arcs : List ArcRef) : Prop where
  returns : ∀ front arc current next cycle visit, front ++ [arc] <+: arcs →
    ctx.Accepts startPort front current → ctx.Follows current arc next →
    stripCycles ctx.snapshot source front =
      stripCycles ctx.snapshot source (front ++ [arc]) ++ cycle →
    ctx.Accepts startPort (stripCycles ctx.snapshot source (front ++ [arc])) visit →
    (∃ passed ∈ cycle ++ [arc], ctx.Resets passed) →
    Label.SegmentCovers visit next
  spans : ∀ front arc current next route, front ++ [arc] <+: arcs →
    ctx.Accepts startPort front current → ctx.Follows current arc next →
    stripCycles ctx.snapshot source (front ++ [arc]) =
      stripCycles ctx.snapshot source front ++ [arc] →
    ctx.Accepts startPort (stripCycles ctx.snapshot source front) route →
    arc.kind = .span → route.profileIndex ≠ current.profileIndex →
    ∃ after, ctx.LabelStep route arc after

theorem removalHolds_iff (formed : ctx.snapshot.WellFormed)
    (unlimited : ctx.constraints.maxMembersPerFailureDomain = [])
    (resolved : ctx.snapshot.portIndex source = some startPort)
    (accepted : ctx.Accepts startPort arcs label) :
    ctx.RemovalHolds source startPort arcs label ↔
      ∃ route, ctx.Accepts startPort (stripCycles ctx.snapshot source arcs) route ∧
        Label.Covers route label := by
  constructor
  · rintro ⟨route, found, -, covers⟩
    exact ⟨route, accepts_of_labelAt found, covers⟩
  · rintro ⟨route, stripped, covers⟩
    obtain ⟨⟨keys, leads, -⟩, -⟩ := accepted.leads formed resolved
    obtain ⟨kept, erased⟩ := erases_stripCycles leads
    obtain ⟨ancestors, walked, -⟩ := stripped.walk_of_simple formed unlimited
      resolved (erased.leads leads) erased.nodup
    exact ⟨route, labelAt_of_walk walked,
      accepted.port_stripped formed resolved stripped, covers⟩

section Law

variable [IsStrictOrderedRing K] {route : Label K} {kept cycle : List ArcRef}

/-- A walk back to a port leaves the label no better in cost, hops and
regenerations; and in nothing, when it neither converts nor regenerates. -/
theorem Accepts.returned (formed : ctx.snapshot.WellFormed)
    (accepted : ctx.Accepts startPort (kept ++ cycle) route)
    (covers : Label.Covers route current) (follows : ctx.Follows current arc next) :
    ∃ visit, ctx.Accepts startPort kept visit ∧
      ((∃ passed ∈ cycle ++ [arc], ctx.Resets passed) →
        Label.SegmentCovers visit next → Label.Covers visit next) ∧
      (¬ (∃ passed ∈ cycle ++ [arc], ctx.Resets passed) →
        Label.Covers visit next ∧ visit.profileIndex = route.profileIndex) := by
  obtain ⟨visit, visited⟩ := accepted.of_append
  refine ⟨visit, visited, fun _ segment => ?_, fun plain => ⟨?_, ?_⟩⟩
  · have effort := visited.related (fun first second : Label K =>
        first.cost.toNat ≤ second.cost.toNat ∧ first.hops ≤ second.hops ∧
          first.regenerations ≤ second.regenerations)
      (fun _ => ⟨le_rfl, le_rfl, le_rfl⟩)
      (fun _ _ _ before after => ⟨before.1.trans after.1,
        before.2.1.trans after.2.1, before.2.2.trans after.2.2⟩)
      (fun _ _ _ _ step => ⟨step.2.cost_le, by have := step.2.hops; omega,
        step.2.regenerations_le⟩) accepted
    have hops := follows.2.hops
    exact ⟨segment, (effort.1.trans covers.cost).trans follows.2.cost_le,
      by have := effort.2.1.trans covers.hops; omega,
      (effort.2.2.trans covers.regenerations).trans follows.2.regenerations_le⟩
  · have along := visited.related Label.Covers Label.Covers.refl
      (fun _ _ _ => Label.Covers.trans)
      (fun passed member _ _ step => step.covered formed fun resets =>
        plain ⟨passed, List.mem_append_left _ member, resets⟩) accepted
    exact (along.trans covers).trans (follows.covered formed fun resets =>
      plain ⟨arc, by simp, resets⟩)
  · exact visited.related
      (fun first second : Label K => first.profileIndex = second.profileIndex)
      (fun _ => rfl) (fun _ _ _ => Eq.trans)
      (fun passed member _ _ step => (step.2.profileIndex_of_plain fun resets =>
        plain ⟨passed, List.mem_append_left _ member, resets⟩).symm) accepted

/-- An arc that is kept keeps the stripped arcs no worse. -/
theorem Accepts.keep {after : Label K} (formed : ctx.snapshot.WellFormed)
    (resolved : ctx.snapshot.portIndex source = some startPort)
    (accepted : ctx.Accepts startPort arcs current)
    (follows : ctx.Follows current arc next)
    (stripped : ctx.Accepts startPort (stripCycles ctx.snapshot source arcs) route)
    (covers : Label.Covers route current) (taken : ctx.LabelStep route arc after) :
    ctx.Accepts startPort (stripCycles ctx.snapshot source arcs ++ [arc]) after ∧
      Label.Covers after next := by
  have samePort := accepted.port_stripped formed resolved stripped
  exact ⟨stripped.step ⟨samePort ▸ follows.1, taken⟩,
    taken.covers covers samePort follows.2⟩

/-- The stripped arcs are accepted and no worse when no removed conversion or
regeneration is missed. -/
theorem ResetsUnneeded.stripped (formed : ctx.snapshot.WellFormed)
    (resolved : ctx.snapshot.portIndex source = some startPort)
    (unneeded : ctx.ResetsUnneeded source startPort arcs)
    (accepted : ctx.Accepts startPort arcs label) :
    ∃ route, ctx.Accepts startPort (stripCycles ctx.snapshot source arcs) route ∧
      Label.Covers route label := by
  induction accepted with
  | start started => exact ⟨_, .start started, .refl _⟩
  | @step arcs current next arc before follows ih =>
      obtain ⟨returns, spans⟩ := unneeded
      obtain ⟨route, stripped, covers⟩ := ih
        ⟨fun front arc current next cycle visit inside =>
            returns front arc current next cycle visit
              (inside.trans (List.prefix_append ..)),
          fun front arc current next route inside =>
            spans front arc current next route
              (inside.trans (List.prefix_append ..))⟩
      rcases before.stripCycles_cases formed resolved follows with
        keeps | ⟨cycle, drops⟩
      · have samePort := before.port_stripped formed resolved stripped
        have noise := follows.noiseSound formed (before.noiseSound formed)
        have taken : ∃ after, ctx.LabelStep route arc after := by
          by_cases sameProfile : route.profileIndex = current.profileIndex
          · exact follows.2.of_covers noise.keepsFloors covers sameProfile samePort
          · obtain ⟨kind, index, reversed⟩ := arc
            cases kind with
            | crossConnect =>
                exact CrossConnectStep.of_covers covers samePort follows.2
            | span =>
                exact spans arcs _ current next route List.prefix_rfl before
                  follows keeps stripped rfl sameProfile
        obtain ⟨after, step⟩ := taken
        rw [keeps]
        exact ⟨after, before.keep formed resolved follows stripped covers step⟩
      · rw [drops] at stripped
        obtain ⟨visit, visited, resets, plain⟩ :=
          stripped.returned formed covers follows
        refine ⟨visit, visited, ?_⟩
        by_cases reset : ∃ passed ∈ cycle ++ [arc], ctx.Resets passed
        · exact resets reset (returns arcs arc current next cycle visit
            List.prefix_rfl before follows drops visited reset)
        · exact (plain reset).1

omit [IsStrictOrderedRing K] in
/-- A walk whose stripped arcs are accepted and no worse after every arc misses
no removed conversion or regeneration. -/
theorem resetsUnneeded_of_stripped
    (holds : ∀ front label, front <+: arcs → ctx.Accepts startPort front label →
      ∃ route, ctx.Accepts startPort (stripCycles ctx.snapshot source front) route ∧
        Label.Covers route label) :
    ctx.ResetsUnneeded source startPort arcs := by
  constructor
  case returns =>
    intro front arc current next cycle visit inside before follows _ visited _
    obtain ⟨route, stripped, covers⟩ := holds _ next inside (before.step follows)
    obtain rfl := visited.unique stripped
    exact covers.toSegmentCovers
  case spans =>
    intro front arc current next route inside before follows keeps stripped _ _
    obtain ⟨after, accepted, -⟩ := holds _ next inside (before.step follows)
    rw [keeps] at accepted
    obtain ⟨last, earlier, taken⟩ := Accepts.concat_iff.mp accepted
    obtain rfl := earlier.unique stripped
    exact ⟨after, taken.2⟩

/-- The conversions and regenerations among the arcs. -/
def resets (ctx : SearchContext K) (arcs : List ArcRef) : List ArcRef :=
  arcs.filter fun arc => ctx.Resets arc

omit [IsStrictOrderedRing K] in
@[simp]
theorem resets_append (first second : List ArcRef) :
    ctx.resets (first ++ second) = ctx.resets first ++ ctx.resets second :=
  List.filter_append ..

omit [IsStrictOrderedRing K] in
theorem resets_eq_nil_iff : ctx.resets arcs = [] ↔
    ¬ ∃ passed ∈ arcs, ctx.Resets passed := by
  simp [resets]

/-- Stripping that drops no conversion and no regeneration leaves the label no
worse, in a segment of the same profile. -/
theorem Accepts.stripped_of_resets (formed : ctx.snapshot.WellFormed)
    (resolved : ctx.snapshot.portIndex source = some startPort)
    (accepted : ctx.Accepts startPort arcs label)
    (kept : ctx.resets (stripCycles ctx.snapshot source arcs) = ctx.resets arcs) :
    ∃ route, ctx.Accepts startPort (stripCycles ctx.snapshot source arcs) route ∧
      Label.Covers route label ∧ route.profileIndex = label.profileIndex := by
  induction accepted with
  | start started => exact ⟨_, .start started, .refl _, rfl⟩
  | @step arcs current next arc before follows ih =>
      rcases before.stripCycles_cases formed resolved follows with
        keeps | ⟨cycle, drops⟩
      · rw [keeps, resets_append, resets_append, List.append_cancel_right_eq] at kept
        obtain ⟨route, stripped, covers, profile⟩ := ih kept
        have samePort := before.port_stripped formed resolved stripped
        have noise := follows.noiseSound formed (before.noiseSound formed)
        obtain ⟨after, taken⟩ :=
          follows.2.of_covers noise.keepsFloors covers profile samePort
        obtain ⟨onward, better⟩ :=
          before.keep formed resolved follows stripped covers taken
        rw [keeps]
        exact ⟨after, onward, better, taken.profileIndex_eq profile follows.2⟩
      · obtain ⟨⟨keys, leads, -⟩, -⟩ := before.leads formed resolved
        have fewer := ((stripCycles_structure leads).2.1.filter
          fun passed => ctx.Resets passed).length_le
        change (ctx.resets _).length ≤ (ctx.resets arcs).length at fewer
        have counted := congrArg List.length kept
        rw [drops, resets_append, List.length_append] at fewer
        rw [resets_append, List.length_append] at counted
        have noneInCycle : ctx.resets cycle = [] :=
          List.length_eq_zero_iff.mp (by omega)
        have noneInArc : ctx.resets [arc] = [] :=
          List.length_eq_zero_iff.mp (by omega)
        rw [resets_append, noneInArc, List.append_nil] at kept
        obtain ⟨route, stripped, covers, profile⟩ := ih (by
          rw [drops, resets_append, noneInCycle, List.append_nil, kept])
        rw [drops] at stripped
        obtain ⟨visit, visited, -, plain⟩ :=
          stripped.returned formed covers follows
        have unreset : ¬ ∃ passed ∈ cycle ++ [arc], ctx.Resets passed := by
          rw [← resets_eq_nil_iff, resets_append, noneInCycle, noneInArc]
          rfl
        obtain ⟨better, visitProfile⟩ := plain unreset
        refine ⟨visit, visited, better, ?_⟩
        have plainArc : ¬ ctx.Resets arc := fun reset =>
          unreset ⟨arc, by simp, reset⟩
        rw [visitProfile, profile, follows.2.profileIndex_of_plain plainArc]

end Law

/-! ### Walks that are read arc by arc -/

/-- The label after the arcs, each expanded as if it were the first. -/
def labelAlong (ctx : SearchContext K) (startPort : Nat) (arcs : List ArcRef) :
    Option (Label K) :=
  (ctx.startLabel startPort).result.bind fun start =>
    arcs.foldlM (fun label arc => (ctx.extendPath [label] arc).bind List.head?) start

theorem accepts_of_labelAlong (found : ctx.labelAlong startPort arcs = some label) :
    ctx.Accepts startPort arcs label := by
  obtain ⟨start, started, run⟩ := Option.bind_eq_some_iff.mp found
  clear found
  induction arcs using List.reverseRecOn generalizing label with
  | nil =>
      cases run
      exact .start (yields_startLabel_iff.mp started)
  | append_singleton arcs arc ih =>
      rw [List.foldlM_append] at run
      obtain ⟨current, before, last⟩ := Option.bind_eq_some_iff.mp run
      have stepped : (ctx.extendPath [current] arc).bind List.head? =
          some label := by simpa using last
      obtain ⟨longer, extended, head⟩ := Option.bind_eq_some_iff.mp stepped
      obtain ⟨_, _, next, same, rfl, leaves, yielded⟩ :=
        extendPath_eq_some_iff.mp extended
      cases same
      cases head
      exact (ih before).step ⟨leaves, (yields_expandArc_iff.mp yielded).1⟩

end SearchContext

section Claims

variable {runtime : Runtime K} {snapshot : TopologySnapshot K}
  {request : PlanningRequest K} {startPort : Nat}

/-- Without member limits, removing the cycles of accepted walks is lawful
exactly when no walk needs a conversion or regeneration of a removed cycle; and
it is lawful for every walk from which none of them is removed. -/
theorem cycle_removal_iff [IsStrictOrderedRing K] (built : IsBuilt runtime snapshot)
    (unlimited : request.constraints.maxMembersPerFailureDomain = [])
    (resolved : snapshot.portIndex request.source = some startPort) :
    ((∀ arcs label,
        (searchContext runtime snapshot request).Accepts startPort arcs label →
        (searchContext runtime snapshot request).RemovalHolds request.source
          startPort arcs label) ↔
      ∀ arcs label,
        (searchContext runtime snapshot request).Accepts startPort arcs label →
        (searchContext runtime snapshot request).ResetsUnneeded request.source
          startPort arcs) ∧
    ∀ arcs label,
      (searchContext runtime snapshot request).Accepts startPort arcs label →
      (searchContext runtime snapshot request).resets
          (stripCycles snapshot request.source arcs) =
        (searchContext runtime snapshot request).resets arcs →
      (searchContext runtime snapshot request).RemovalHolds request.source
        startPort arcs label := by
  have formed : (searchContext runtime snapshot request).snapshot.WellFormed :=
    built.wellFormed
  refine ⟨⟨fun holds arcs label _ => ?_, fun unneeded arcs label accepted => ?_⟩,
    fun arcs label accepted kept => ?_⟩
  · refine SearchContext.resetsUnneeded_of_stripped fun front last _ before => ?_
    exact (SearchContext.removalHolds_iff formed unlimited resolved before).mp
      (holds front last before)
  · exact (SearchContext.removalHolds_iff formed unlimited resolved accepted).mpr
      ((unneeded arcs label accepted).stripped formed resolved accepted)
  · obtain ⟨route, stripped, covers, -⟩ :=
      accepted.stripped_of_resets formed resolved kept
    exact (SearchContext.removalHolds_iff formed unlimited resolved accepted).mpr
      ⟨route, stripped, covers⟩

/-- To the other end over one span and back over another. -/
theorem cycle_removal_iff_tiedSpans :
    ∃ label, (searchContext rationalRuntime
        (tiedSpans.finished rationalRuntime) acrossSpan).Accepts 0
          [⟨.span, 1, false⟩, ⟨.span, 2, true⟩] label ∧
      (searchContext rationalRuntime (tiedSpans.finished rationalRuntime)
        acrossSpan).RemovalHolds acrossSpan.source 0
          [⟨.span, 1, false⟩, ⟨.span, 2, true⟩] label := by
  have found : ((searchContext rationalRuntime
      (tiedSpans.finished rationalRuntime) acrossSpan).labelAlong 0
        [⟨.span, 1, false⟩, ⟨.span, 2, true⟩]).isSome = true := by decide +kernel
  obtain ⟨label, along⟩ := Option.isSome_iff_exists.mp found
  have accepted := SearchContext.accepts_of_labelAlong along
  exact ⟨label, accepted, (cycle_removal_iff
    (isBuilt_finished (by decide +kernel)) rfl (by decide +kernel)).2 _ label
      accepted (by decide +kernel)⟩

/-- The cheap way to the conversion and back: the walk crosses the last span on
the converted channel, and without the cycle no channel is left. -/
theorem conversionDetour_removal_fails :
    IsBuilt rationalRuntime (conversionDetour.finished rationalRuntime) ∧
    (conversionDetour.finished rationalRuntime).portIndex acrossSpan.source =
      some 0 ∧
    acrossSpan.constraints.maxMembersPerFailureDomain = [] ∧
    ∃ label, (searchContext rationalRuntime
        (conversionDetour.finished rationalRuntime) acrossSpan).Accepts 0
          [⟨.span, 1, false⟩, ⟨.span, 5, false⟩, ⟨.crossConnect, 0, false⟩,
            ⟨.span, 3, false⟩, ⟨.span, 4, false⟩] label ∧
      ¬ (searchContext rationalRuntime
        (conversionDetour.finished rationalRuntime) acrossSpan).RemovalHolds
          acrossSpan.source 0
          [⟨.span, 1, false⟩, ⟨.span, 5, false⟩, ⟨.crossConnect, 0, false⟩,
            ⟨.span, 3, false⟩, ⟨.span, 4, false⟩] label := by
  have found : ((searchContext rationalRuntime
      (conversionDetour.finished rationalRuntime) acrossSpan).labelAlong 0
        [⟨.span, 1, false⟩, ⟨.span, 5, false⟩, ⟨.crossConnect, 0, false⟩,
          ⟨.span, 3, false⟩, ⟨.span, 4, false⟩]).isSome = true := by decide +kernel
  have refused : (searchContext rationalRuntime
      (conversionDetour.finished rationalRuntime) acrossSpan).labelAt 0
        (stripCycles (conversionDetour.finished rationalRuntime) acrossSpan.source
          [⟨.span, 1, false⟩, ⟨.span, 5, false⟩, ⟨.crossConnect, 0, false⟩,
            ⟨.span, 3, false⟩, ⟨.span, 4, false⟩]) = none := by decide +kernel
  obtain ⟨label, along⟩ := Option.isSome_iff_exists.mp found
  refine ⟨isBuilt_finished (by decide +kernel), by decide +kernel, rfl, label,
    SearchContext.accepts_of_labelAlong along, ?_⟩
  rintro ⟨route, taken, -⟩
  have none_ := taken.symm.trans refused
  cases none_

end Claims

end OpticalPathPlanner
