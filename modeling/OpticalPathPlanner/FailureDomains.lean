import OpticalPathPlanner.BuildOrder
import OpticalPathPlanner.HardConstraints

/-!
# Failure domains of candidates

The resources of a route are its source port and node, the arcs it traverses,
the ports it arrives at and the nodes it enters.  The search counts all of
them against the member limits.  The plan builder reports them as exposure,
except for a node that an express cross-connect enters, and the exclusion of a
domain is tested on the source port and on arcs only.
-/

namespace OpticalPathPlanner

open SortedRanges Traced

/-! ### Domain lists of sealed snapshots -/

section Sealed

variable {K : Type} [Field K] [LinearOrder K] {runtime : Runtime K}

/-- Every record lists its domains once, in order. -/
structure TopologySnapshot.DomainsOrdered (snapshot : TopologySnapshot K) :
    Prop where
  nodes : ∀ node ∈ snapshot.nodes, node.failureDomains.Pairwise (· < ·)
  ports : ∀ port ∈ snapshot.ports, port.failureDomains.Pairwise (· < ·)
  spans : ∀ span ∈ snapshot.spans, span.failureDomains.Pairwise (· < ·)
  crossConnects : ∀ record ∈ snapshot.crossConnects,
    record.failureDomains.Pairwise (· < ·)

theorem normaliseDomainList_increasing (runtime : Runtime K)
    (domains : List FailureDomainId) :
    (normaliseDomainList runtime domains).Pairwise (· < ·) :=
  increasing_destutter (runtime.routine.sortValues_sorted domains)

theorem IsBuilt.domainsOrdered {snapshot : TopologySnapshot K}
    (built : IsBuilt runtime snapshot) : snapshot.DomainsOrdered := by
  induction built with
  | sealed builder snapshot built =>
      obtain rfl := SnapshotBuilder.eq_finished built
      refine ⟨?_, ?_, ?_, ?_⟩
      all_goals
        intro record kept
        have sorted := (runtime.routine.perm _ _).mem_iff.mp
          (mem_of_mem_collapse kept)
        obtain ⟨original, _, rfl⟩ := List.mem_map.mp sorted
        exact normaliseDomainList_increasing runtime _
  | restored snapshot producer epoch original ih =>
      exact ⟨ih.nodes, ih.ports, ih.spans, ih.crossConnects⟩

end Sealed

/-! ### Counting members -/

section Counting

variable {domain other : FailureDomainId}
  {counts : List (FailureDomainId × Nat)} {domains more : List FailureDomainId}

/-- The count of a domain, zero if there is none. -/
def membersOf (counts : List (FailureDomainId × Nat))
    (domain : FailureDomainId) : Nat :=
  ((counts.find? fun entry => entry.1 = domain).map Prod.snd).getD 0

/-- The counts list every domain as often as it occurs, in order. -/
structure Tallies (counts : List (FailureDomainId × Nat))
    (domains : List FailureDomainId) : Prop where
  ordered : counts.Pairwise fun first second => first.1 < second.1
  count : ∀ domain, membersOf counts domain = domains.count domain
  listed : ∀ domain, domain ∈ counts.map Prod.fst ↔ domain ∈ domains

theorem mem_addMember_fst :
    other ∈ (addMember domain counts).map Prod.fst ↔
      other = domain ∨ other ∈ counts.map Prod.fst := by
  induction counts with
  | nil => simp [addMember]
  | cons entry rest ih =>
      unfold addMember
      split_ifs with before same
      · simp
      · simp [same]
      · rw [List.map_cons, List.mem_cons, ih, List.map_cons, List.mem_cons]
        exact or_left_comm

theorem addMember_ordered
    (ordered : counts.Pairwise fun first second => first.1 < second.1) :
    (addMember domain counts).Pairwise fun first second =>
      first.1 < second.1 := by
  induction counts with
  | nil => exact List.pairwise_singleton _ _
  | cons entry rest ih =>
      obtain ⟨above, restOrdered⟩ := List.pairwise_cons.mp ordered
      unfold addMember
      split_ifs with before same
      · refine List.pairwise_cons.mpr ⟨?_, ordered⟩
        intro later member
        rcases List.mem_cons.mp member with rfl | inRest
        · exact before
        · exact before.trans (above later inRest)
      · exact List.pairwise_cons.mpr ⟨above, restOrdered⟩
      · refine List.pairwise_cons.mpr ⟨?_, ih restOrdered⟩
        intro later member
        rcases mem_addMember_fst.mp (List.mem_map_of_mem member) with
          isNew | inRest
        · rw [isNew]
          exact lt_of_le_of_ne (not_lt.mp before) (Ne.symm same)
        · obtain ⟨old, isOld, sameId⟩ := List.mem_map.mp inRest
          rw [← sameId]
          exact above old isOld

theorem membersOf_eq_zero (missing : domain ∉ counts.map Prod.fst) :
    membersOf counts domain = 0 := by
  have none_ : counts.find? (fun entry => entry.1 = domain) = none := by
    rw [List.find?_eq_none]
    intro entry member same
    exact missing (of_decide_eq_true same ▸ List.mem_map_of_mem member)
  rw [membersOf, none_]
  rfl

theorem membersOf_cons (entry : FailureDomainId × Nat) :
    membersOf (entry :: counts) domain =
      if entry.1 = domain then entry.2 else membersOf counts domain := by
  unfold membersOf
  by_cases same : entry.1 = domain
  · simp [same]
  · simp [same]

theorem membersOf_addMember
    (ordered : counts.Pairwise fun first second => first.1 < second.1) :
    membersOf (addMember domain counts) other =
      membersOf counts other + if domain = other then 1 else 0 := by
  induction counts with
  | nil =>
      rw [addMember, membersOf_cons]
      split_ifs <;> rfl
  | cons entry rest ih =>
      obtain ⟨above, restOrdered⟩ := List.pairwise_cons.mp ordered
      rcases lt_trichotomy domain entry.1 with before | same | after
      · -- A domain before the first key has no entry yet.
        have missing : membersOf (entry :: rest) domain = 0 := by
          refine membersOf_eq_zero ?_
          intro present
          obtain ⟨old, member, sameId⟩ := List.mem_map.mp present
          rcases List.mem_cons.mp member with rfl | inRest
          · exact before.ne' sameId
          · exact (before.trans (above old inRest)).ne' sameId
        rw [addMember, if_pos before, membersOf_cons]
        by_cases isOther : domain = other
        · rw [if_pos isOther, if_pos isOther, ← isOther, missing]
        · rw [if_neg isOther, if_neg isOther, Nat.add_zero]
      · rw [addMember, if_neg (same ▸ lt_irrefl _), if_pos same, membersOf_cons,
          membersOf_cons, same]
        split_ifs <;> rfl
      · rw [addMember, if_neg after.not_gt, if_neg after.ne', membersOf_cons,
          membersOf_cons, ih restOrdered]
        by_cases isEntry : entry.1 = other
        · rw [if_pos isEntry, if_pos isEntry, if_neg, Nat.add_zero]
          intro isOther
          exact after.ne (isEntry.trans isOther.symm)
        · rw [if_neg isEntry, if_neg isEntry]

theorem tallies_nil : Tallies [] [] := by
  refine ⟨List.Pairwise.nil, fun _ => rfl, ?_⟩
  simp

variable (domain) in
theorem Tallies.addMember (tallies : Tallies counts domains) :
    Tallies (addMember domain counts) (domains ++ [domain]) := by
  refine ⟨addMember_ordered tallies.ordered, ?_, ?_⟩
  · intro other
    rw [membersOf_addMember tallies.ordered, tallies.count, List.count_append,
      List.count_singleton]
    simp
  · intro other
    rw [mem_addMember_fst, tallies.listed, List.mem_append, List.mem_singleton]
    exact or_comm

variable (more) in
theorem Tallies.countMembers (tallies : Tallies counts domains) :
    Tallies (countMembers more counts) (domains ++ more) := by
  induction more generalizing counts domains with
  | nil => simpa [OpticalPathPlanner.countMembers] using tallies
  | cons domain rest ih =>
      have after := ih (tallies.addMember domain)
      rw [List.append_assoc] at after
      exact after

end Counting

/-! ### The resources of a route -/

section Resources

variable {K : Type}

def Link.express : Link K → Bool
  | .span _ _ => false
  | .crossConnect record => decide (record.op = .express)

namespace TopologySnapshot

variable (snapshot : TopologySnapshot K)

/-- The node a hop enters, when that is not the node it leaves. -/
def enteredBy (hop : Hop K) : Option NodeRecord :=
  if hop.link.arrival.node = hop.link.departure.node then none
  else snapshot.findNode hop.link.arrival.node

/-- The domains of a node that may be used. -/
def nodeResource (node : Option NodeRecord) : List (List FailureDomainId) :=
  node.toList.map NodeRecord.failureDomains

/-- The domains of the resources at the source of a route, one list for each
resource. -/
def startResources (start : PortRecord) : List (List FailureDomainId) :=
  start.failureDomains :: nodeResource (snapshot.findNode start.key.node)

/-- The domains of the resources a hop uses. -/
def hopResources (hop : Hop K) : List (List FailureDomainId) :=
  hop.link.failureDomains :: hop.target.failureDomains ::
    nodeResource (snapshot.enteredBy hop)

def routeResources (start : PortRecord) (hops : List (Hop K)) :
    List (List FailureDomainId) :=
  snapshot.startResources start ++ hops.flatMap snapshot.hopResources

/-- The number of resources of a route that belong to a domain. -/
def routeMembers (start : PortRecord) (hops : List (Hop K))
    (domain : FailureDomainId) : Nat :=
  (snapshot.routeResources start hops).countP fun resource =>
    decide (domain ∈ resource)

/-- The resources of a hop that a plan notes. -/
def notedResources (hop : Hop K) : List (List FailureDomainId) :=
  hop.link.failureDomains :: hop.target.failureDomains ::
    if hop.link.express then [] else nodeResource (snapshot.enteredBy hop)

def planResources (start : PortRecord) (hops : List (Hop K)) :
    List (List FailureDomainId) :=
  snapshot.startResources start ++ hops.flatMap snapshot.notedResources

variable {snapshot}

theorem routeMembers_concat (start : PortRecord) (hops : List (Hop K))
    (hop : Hop K) (domain : FailureDomainId) :
    snapshot.routeMembers start (hops ++ [hop]) domain =
      snapshot.routeMembers start hops domain +
        (snapshot.hopResources hop).countP fun resource =>
          decide (domain ∈ resource) := by
  simp only [routeMembers, routeResources, List.flatMap_append,
    List.flatMap_singleton, List.countP_append, Nat.add_assoc]

theorem planResources_concat (start : PortRecord) (hops : List (Hop K))
    (hop : Hop K) :
    snapshot.planResources start (hops ++ [hop]) =
      snapshot.planResources start hops ++ snapshot.notedResources hop := by
  simp only [planResources, List.flatMap_append, List.flatMap_singleton,
    List.append_assoc]

theorem mem_routeResources_of_planResources {start : PortRecord}
    {hops : List (Hop K)} {resource : List FailureDomainId}
    (noted : resource ∈ snapshot.planResources start hops) :
    resource ∈ snapshot.routeResources start hops := by
  unfold planResources at noted
  unfold routeResources
  rcases List.mem_append.mp noted with atStart | onHop
  · exact List.mem_append_left _ atStart
  · obtain ⟨hop, member, ofHop⟩ := List.mem_flatMap.mp onHop
    refine List.mem_append_right _ (List.mem_flatMap.mpr ⟨hop, member, ?_⟩)
    unfold notedResources at ofHop
    unfold hopResources
    split_ifs at ofHop
    · simp only [List.mem_cons, List.not_mem_nil, or_false] at ofHop
      rcases ofHop with link | target
      · exact link ▸ List.mem_cons_self ..
      · exact target ▸ List.mem_cons_of_mem _ (List.mem_cons_self ..)
    · exact ofHop

end TopologySnapshot

/-- A domain is listed by a duplicate-free resource at most once. -/
theorem count_flatten_eq_countP {resources : List (List FailureDomainId)}
    (ordered : ∀ resource ∈ resources, resource.Pairwise (· < ·))
    (domain : FailureDomainId) :
    resources.flatten.count domain =
      resources.countP fun resource => decide (domain ∈ resource) := by
  induction resources with
  | nil => rfl
  | cons resource rest ih =>
      obtain ⟨first, others⟩ := List.forall_mem_cons.mp ordered
      have simple : resource.Nodup := first.imp ne_of_lt
      rw [List.flatten_cons, List.count_append, ih others, List.countP_cons]
      by_cases member : domain ∈ resource
      · rw [List.count_eq_one_of_mem simple member]
        simp [member, Nat.add_comm]
      · rw [List.count_eq_zero_of_not_mem member]
        simp [member]

end Resources

/-! ### The members a plan notes -/

namespace SearchContext

variable {K : Type} [Field K] [LinearOrder K] {ctx : SearchContext K}
  {rules : RouteRules K} {request : PlanningRequest K} {startPort : Nat}

theorem Travelled.currentPort
    (source : ctx.snapshot.portIndex request.source = some startPort)
    {hops : List (Hop K)} {path : List (Label K)} {builder : PlanBuilder K}
    (travelled : ctx.Travelled rules request startPort hops path builder) :
    ∀ label ∈ path.head?, builder.currentPort = ctx.portKey label := by
  cases travelled with
  | start started _ _ =>
      rintro _ ⟨⟩
      rw [startBuilder_eq, portKey, congrArg Label.portIndex started.label_eq]
      exact (port_key_of_portIndex source).symm
  | span _ _ step _ _ _ =>
      rintro _ ⟨⟩
      rw [useSpan_eq]
      exact (port_key_of_portIndex step.target).symm
  | crossConnect _ _ step _ _ _ =>
      rintro _ ⟨⟩
      rw [useCrossConnect_eq]
      exact (port_key_of_portIndex step.target).symm

variable (ctx) in
theorem enteredDomains_eq_flatten (hop : Hop K) :
    ctx.enteredDomains hop.link.departure hop.link.arrival =
      (TopologySnapshot.nodeResource (ctx.snapshot.enteredBy hop)).flatten := by
  unfold enteredDomains enteredNode TopologySnapshot.enteredBy
    TopologySnapshot.nodeResource
  split_ifs
  · rfl
  · cases ctx.snapshot.findNode hop.link.arrival.node <;> simp

/-- The plan builder counts the resources it notes. -/
theorem Travelled.tallies
    (source : ctx.snapshot.portIndex request.source = some startPort)
    {hops : List (Hop K)} {path : List (Label K)} {builder : PlanBuilder K}
    (travelled : ctx.Travelled rules request startPort hops path builder) :
    Tallies builder.domainCounts
      (ctx.snapshot.planResources (ctx.port startPort) hops).flatten := by
  induction travelled with
  | start started _ _ =>
      have key : (ctx.port startPort).key = request.source :=
        port_key_of_portIndex source
      have node : (ctx.under rules).snapshot.findNode request.source.node =
          ctx.snapshot.findNode (ctx.port startPort).key.node := by
        rw [key]
        rfl
      rw [startBuilder_eq, node]
      have same : (ctx.snapshot.planResources (ctx.port startPort) []).flatten =
          [] ++ ((ctx.port startPort).failureDomains ++
            ((ctx.snapshot.findNode (ctx.port startPort).key.node).map
              NodeRecord.failureDomains).getD []) := by
        simp only [TopologySnapshot.planResources,
          TopologySnapshot.startResources, TopologySnapshot.nodeResource,
          List.flatMap_nil, List.append_nil, List.flatten_cons, List.nil_append]
        cases ctx.snapshot.findNode (ctx.port startPort).key.node <;> simp
      rw [same]
      exact tallies_nil.countMembers _
  | @span hops current next _ builder index reversed _ _ _ _ before departs step
      allows proven built ih =>
      have port := before.currentPort source current rfl
      rw [useSpan_eq, port, portKey, ← departs,
        TopologySnapshot.planResources_concat, List.flatten_append]
      have entered : ctx.enteredDomains ((ctx.span index).departure reversed)
          ((ctx.span index).arrival reversed) =
            (TopologySnapshot.nodeResource (ctx.snapshot.enteredBy
              ⟨.span (ctx.span index) reversed,
                ctx.port next.portIndex⟩)).flatten :=
        enteredDomains_eq_flatten ctx
          ⟨.span (ctx.span index) reversed, ctx.port next.portIndex⟩
      have noted : (ctx.snapshot.notedResources
          ⟨.span (ctx.span index) reversed, ctx.port next.portIndex⟩).flatten =
          (ctx.span index).failureDomains ++
            (ctx.port next.portIndex).failureDomains ++
            ctx.enteredDomains ((ctx.span index).departure reversed)
              ((ctx.span index).arrival reversed) := by
        rw [entered]
        simp [TopologySnapshot.notedResources, Link.express,
          Link.failureDomains]
      rw [noted]
      exact ih.countMembers _
  | @crossConnect hops current next _ builder switched index before departs step
      allows proven built ih =>
      have port := before.currentPort source current rfl
      have key : (ctx.port next.portIndex).key = (ctx.crossConnect index).toPort :=
        port_key_of_portIndex step.target
      obtain ⟨_, counts, _, _, stays⟩ := built.segment.frame
      rw [useCrossConnect_eq, stays, port, portKey, ← departs, counts,
        TopologySnapshot.planResources_concat, List.flatten_append]
      have entered : (ctx.under rules).enteredDomains
          (ctx.crossConnect index).fromPort (ctx.crossConnect index).toPort =
            (TopologySnapshot.nodeResource (ctx.snapshot.enteredBy
              ⟨.crossConnect (ctx.crossConnect index),
                ctx.port next.portIndex⟩)).flatten :=
        enteredDomains_eq_flatten (ctx.under rules)
          ⟨.crossConnect (ctx.crossConnect index), ctx.port next.portIndex⟩
      have noted : (ctx.snapshot.notedResources
          ⟨.crossConnect (ctx.crossConnect index),
            ctx.port next.portIndex⟩).flatten =
          (ctx.crossConnect index).failureDomains ++
            (ctx.port next.portIndex).failureDomains ++
            (ctx.under rules).notedDomains (ctx.crossConnect index)
              (ctx.port next.portIndex) (ctx.crossConnect index).fromPort := by
        unfold notedDomains TopologySnapshot.notedResources
        by_cases express : (ctx.crossConnect index).op = .express
        · simp [Link.express, express, Link.failureDomains]
        · rw [if_neg express, key, entered]
          simp [Link.express, express, Link.failureDomains]
      rw [noted]
      exact ih.countMembers _

end SearchContext

end OpticalPathPlanner
