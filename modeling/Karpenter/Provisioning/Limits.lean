import Karpenter.Provisioning.Scheduler

/-! NodePool limits within one scheduling loop. The budget of a NodePool is charged with the largest
instance type of each new NodeClaim, while later pods only shrink its options, so every choice of one
option for each NodeClaim stays within the budget. Nodes themselves are counted for existing nodes but
never charged for new ones: the limit on `nodes` holds as long as no NodeClaim is created for a NodePool
that has used up its nodes within the loop. -/
namespace Karpenter.Provisioning

open Go (Map)
open CloudProvider
open Resources (ResourceList amount maxResources node Nonneg)
open Scheduling

/-- The most of a resource that one of the instance types has. -/
def largest (its : List InstanceType) (name : String) : ℚ := amount (maxResources (its.map (·.capacity))) name

section Largest

variable (name : String)

theorem nonneg_capacities (its : List InstanceType) : ∀ list ∈ its.map (·.capacity), Nonneg list := by
  intro list member
  obtain ⟨it, -, rfl⟩ := List.mem_map.mp member
  exact it.nonneg

theorem capacity_le_largest (member : it ∈ its) : amount it.capacity name ≤ largest its name :=
  Resources.amount_le_maxResources (nonneg_capacities its) (List.mem_map_of_mem member) name

theorem largest_le (room : 0 ≤ bound) (each : ∀ it ∈ its, amount it.capacity name ≤ bound) :
    largest its name ≤ bound := by
  refine Resources.maxResources_le (nonneg_capacities its) room fun list member => ?_
  obtain ⟨it, inIts, rfl⟩ := List.mem_map.mp member
  exact each it inIts

theorem largest_nonneg (its : List InstanceType) : 0 ≤ largest its name := by
  cases its with
  | nil => exact le_rfl
  | cons it rest => exact (it.nonneg.amount name).trans (capacity_le_largest name List.mem_cons_self)

theorem largest_mono (subset : its ⊆ others) : largest its name ≤ largest others name :=
  largest_le name (largest_nonneg name others) fun _ member => capacity_le_largest name (subset member)

end Largest

/-- A NodeClaim of the same NodePool with no option the other one lacks. -/
structure Shrinks (n other : NodeClaim) : Prop where
  nodePoolName : n.nodePoolName = other.nodePoolName
  options : n.instanceTypeOptions ⊆ other.instanceTypeOptions

theorem Shrinks.refl (n : NodeClaim) : Shrinks n n := ⟨rfl, List.Subset.refl _⟩

theorem shrinks_of_add
    (accepted : n.canAdd settings rm collaborators pod podData volumes relaxMinValues = some (.ok result))
    (ok : n.add settings rm pod podData volumes result = some (placed, after)) :
    Shrinks placed n ∧ placed.instanceTypeOptions ≠ [] := by
  have facts := NodeClaim.canAdd_spec accepted
  rw [NodeClaim.add_spec ok]
  exact ⟨⟨rfl, fun it member => (facts.accepted it member).1⟩, facts.nonempty⟩

theorem placeInflight_spec (ok : placeInflight settings rm a claims = some (some (others, after))) :
    List.Forall₂ Shrinks others claims := by
  induction claims generalizing others with
  | nil => cases ok
  | cons n rest ih =>
    unfold placeInflight at ok
    split at ok
    · cases ok
    · obtain ⟨found, here, mapped⟩ := Option.map_eq_some_iff.mp ok
      obtain ⟨⟨later, rm'⟩, rfl, rest'⟩ := Option.map_eq_some_iff.mp mapped
      cases rest'
      exact .cons (Shrinks.refl n) (ih here)
    · rename_i accepted
      obtain ⟨⟨placed, rm'⟩, added, rest'⟩ := Option.map_eq_some_iff.mp ok
      cases rest'
      refine .cons (shrinks_of_add accepted added).1 ?_
      exact List.forall₂_same.mpr fun n _ => Shrinks.refl n

theorem exists_of_shrinks (shrunk : List.Forall₂ Shrinks others claims) (member : n ∈ others) :
    ∃ before ∈ claims, Shrinks n before := by
  induction shrunk with
  | nil => cases member
  | @cons _ before _ _ shrinks _ ih =>
    rcases List.mem_cons.mp member with rfl | later
    · exact ⟨before, List.mem_cons_self, shrinks⟩
    · obtain ⟨before, known, shrinks⟩ := ih later
      exact ⟨before, List.mem_cons_of_mem _ known, shrinks⟩

/-- What the NodeClaims of a NodePool may take of a resource. -/
def charge (claims : List NodeClaim) (pool name : String) : ℚ :=
  (claims.map fun n => if n.nodePoolName = pool then largest n.instanceTypeOptions name else 0).sum

def created (claims : List NodeClaim) (pool : String) : Nat :=
  claims.countP fun n => n.nodePoolName = pool

theorem charge_nonneg (claims : List NodeClaim) (pool name : String) : 0 ≤ charge claims pool name := by
  refine List.sum_nonneg fun amount member => ?_
  obtain ⟨n, -, rfl⟩ := List.mem_map.mp member
  split
  · exact largest_nonneg name _
  · exact le_rfl

theorem charge_perm (name : String) (order : claims.Perm others) : charge claims pool name = charge others pool name :=
  (order.map _).sum_eq

theorem charge_append (claims : List NodeClaim) (n : NodeClaim) (pool name : String) :
    charge (claims ++ [n]) pool name =
      charge claims pool name + if n.nodePoolName = pool then largest n.instanceTypeOptions name else 0 := by
  simp [charge]

theorem created_append (claims : List NodeClaim) (n : NodeClaim) (pool : String) :
    created (claims ++ [n]) pool = created claims pool + if n.nodePoolName = pool then 1 else 0 := by
  simp [created, List.countP_cons]

theorem charge_shrinks (name : String) (shrunk : List.Forall₂ Shrinks others claims) :
    charge others pool name ≤ charge claims pool name ∧ created others pool = created claims pool := by
  induction shrunk with
  | nil => exact ⟨le_rfl, rfl⟩
  | @cons n other rest later shrinks _ ih =>
    have head : (if n.nodePoolName = pool then largest n.instanceTypeOptions name else 0) ≤
        if other.nodePoolName = pool then largest other.instanceTypeOptions name else 0 := by
      rw [shrinks.nodePoolName]
      split
      · exact largest_mono name shrinks.options
      · exact le_rfl
    constructor
    · simpa only [charge, List.map_cons, List.sum_cons] using add_le_add head ih.1
    · have counts := ih.2
      simp only [created, List.countP_cons, shrinks.nodePoolName] at counts ⊢
      rw [counts]

theorem charge_eq_sum_filter (claims : List NodeClaim) (pool name : String) : charge claims pool name =
    ((claims.filter fun n => n.nodePoolName = pool).map fun n => largest n.instanceTypeOptions name).sum := by
  induction claims with
  | nil => rfl
  | cons n rest ih =>
    rw [charge] at ih
    by_cases same : n.nodePoolName = pool <;> simp [charge, same, ih]

/-- Whatever option each NodeClaim of the NodePool is launched as, the charge covers it. -/
theorem chosen_le_charge (name : String) {chosen : List InstanceType}
    (options : List.Forall₂ (fun n it => it ∈ n.instanceTypeOptions)
      (claims.filter fun n => n.nodePoolName = pool) chosen) :
    (chosen.map fun it => amount it.capacity name).sum ≤ charge claims pool name ∧
      chosen.length = created claims pool := by
  rw [charge_eq_sum_filter, created, List.countP_eq_length_filter]
  generalize claims.filter _ = own at options ⊢
  induction options with
  | nil => exact ⟨le_rfl, rfl⟩
  | cons member _ ih =>
    simp only [List.map_cons, List.sum_cons, List.length_cons, ih.2, and_true]
    exact add_le_add (capacity_le_largest name member) ih.1

/-- What the nodes of a NodePool have of a resource. -/
def used (existing : List StateNode) (pool name : String) : ℚ :=
  ((existing.filter fun n => n.nodePool = pool).map fun n => amount n.capacity name).sum

theorem lookup_updateRemainingResources (existing : List StateNode) (limits : Map String ResourceList)
    (limited : limits.lookup pool = some budget) :
    ∃ remaining, (existing.foldl updateRemainingResources limits).lookup pool = some remaining ∧
      ∀ name, remaining.lookup name = (budget.lookup name).map (· - used existing pool name) := by
  induction existing generalizing limits budget with
  | nil => exact ⟨budget, limited, fun name => by cases h : budget.lookup name <;> simp [used]⟩
  | cons n rest ih =>
    by_cases same : n.nodePool = pool
    · subst same
      have next : (updateRemainingResources limits n).lookup n.nodePool =
          some (Resources.subtract budget n.capacity) := by
        simp only [updateRemainingResources, limited, AList.lookup_insert]
      obtain ⟨remaining, found, amounts⟩ := ih _ next
      refine ⟨remaining, found, fun name => ?_⟩
      rw [amounts, Resources.lookup_subtract]
      cases budget.lookup name with
      | none => rfl
      | some limit =>
        simp only [Option.map_some, used, List.filter_cons_of_pos, decide_true, List.map_cons,
          List.sum_cons, sub_sub]
    · have next : (updateRemainingResources limits n).lookup pool = some budget := by
        unfold updateRemainingResources
        split
        · exact limited
        · rw [AList.lookup_insert_ne (Ne.symm same), limited]
      obtain ⟨remaining, found, amounts⟩ := ih _ next
      refine ⟨remaining, found, fun name => ?_⟩
      rw [amounts, used, used, List.filter_cons_of_neg (by simpa using same)]

theorem optionsWithinLimits_spec {s : Scheduler} (offered : s.optionsWithinLimits template = some its)
    (limited : s.remainingResources.lookup template.nodePoolName = some remaining) :
    ∀ it ∈ its, ∀ name left, remaining.lookup name = some left → amount it.capacity name ≤ left := by
  simp only [Scheduler.optionsWithinLimits, limited] at offered
  split at offered
  · cases offered
  · split at offered
    · cases offered
    · cases offered
      intro it member name left found
      have within := List.all_eq_true.mp (List.mem_filter.mp member).2 ⟨name, left⟩
        (Map.mem_entries_iff.mpr found)
      exact of_decide_eq_true within

/-- The template at an index accepts the pod for a new NodeClaim. -/
def AcceptsAt (settings : Settings) (s : Scheduler) (a : Attempt) (index : Nat) (template : NodeClaimTemplate)
    (n : NodeClaim) (result : CanAddResult) : Prop :=
  ∃ groups its, s.nodeClaimTemplates[index]? = some (template, groups) ∧
    s.optionsWithinLimits template = some its ∧ n = s.draft a index template groups its ∧
    s.tryDraft settings a n = some (.ok result)

theorem tryTemplates_spec (suffix : templates = s.nodeClaimTemplates.drop index)
    (found : s.tryTemplates settings a index templates = some (some (n, result))) :
    ∃ index template, AcceptsAt settings s a index template n result := by
  induction templates generalizing index with
  | nil => cases found
  | cons entry rest ih =>
    obtain ⟨template, groups⟩ := entry
    have here : s.nodeClaimTemplates[index]? = some (template, groups) := by
      have head := congrArg List.head? suffix
      simpa using head.symm
    have later : rest = s.nodeClaimTemplates.drop (index + 1) := by
      have tail := congrArg List.tail suffix
      simpa using tail
    unfold Scheduler.tryTemplates at found
    split at found
    · exact ih later found
    · rename_i its offered
      split at found
      · cases found
      · split at found
        · cases found
        · exact ih later found
      · rename_i accepted
        cases found
        exact ⟨index, template, groups, its, here, offered, rfl, accepted⟩

/-- A template accepted the pod and the new NodeClaim took it. -/
theorem addToNewNodeClaim_inv (ok : s.addToNewNodeClaim settings a = some (some next)) :
    ∃ index template n result placed rm, AcceptsAt settings s a index template n result ∧
      s.tryTemplates settings a 0 s.nodeClaimTemplates = some (some (n, result)) ∧
      n.add settings s.reservationManager a.pod a.podData a.volumes result = some (placed, rm) ∧
      next = { s with
        newNodeClaims := s.newNodeClaims ++ [placed]
        remainingResources := s.remainingResources.insert placed.nodePoolName
          (subtractMax ((s.remainingResources.lookup placed.nodePoolName).getD ∅) placed.instanceTypeOptions)
        reservationManager := rm } := by
  rw [Scheduler.addToNewNodeClaim] at ok
  split at ok
  · cases ok
  · cases ok
  · rename_i n result found
    obtain ⟨⟨placed, rm⟩, added, rest⟩ := Option.map_eq_some_iff.mp ok
    obtain ⟨index, template, accepts⟩ := tryTemplates_spec (List.drop_zero).symm found
    cases rest
    exact ⟨index, template, n, result, placed, rm, accepts, found, added, rfl⟩

/-- The first template that accepts the pod belongs to a NodePool with nodes left, the NodeClaims created in
this loop counted. -/
def NodesLeft (settings : Settings) (s : Scheduler) (a : Attempt) : Prop :=
  ∀ n result, s.tryTemplates settings a 0 s.nodeClaimTemplates = some (some (n, result)) →
    ∀ remaining left, s.remainingResources.lookup n.nodePoolName = some remaining →
      remaining.lookup node = some left → (created s.newNodeClaims n.nodePoolName : ℚ) + 1 ≤ left

section Invariant

variable {guard : Scheduler → Attempt → Prop} {guarded : Prop}

/-- The state of one limited resource of a NodePool. -/
structure Budget (existing : List StateNode) (guarded : Prop) (claims : List NodeClaim) (pool name : String)
    (limit left : ℚ) : Prop where
  nonneg : 0 ≤ left
  charged : used existing pool name + left + charge claims pool name ≤ limit
  counted : guarded → name = node → used existing pool name + created claims pool ≤ limit

def WithinLimits (limits : Map String ResourceList) (existing : List StateNode) (guarded : Prop)
    (s : Scheduler) : Prop :=
  ∀ pool budget, limits.lookup pool = some budget →
    ∃ remaining, s.remainingResources.lookup pool = some remaining ∧
      ∀ name limit, budget.lookup name = some limit →
        ∃ left, remaining.lookup name = some left ∧
          Budget existing guarded s.newNodeClaims pool name limit left

theorem withinLimits_start (fresh : s.newNodeClaims = [])
    (start : s.remainingResources = existing.foldl updateRemainingResources limits)
    (within : ∀ pool budget name limit, limits.lookup pool = some budget → budget.lookup name = some limit →
      used existing pool name ≤ limit) : WithinLimits limits existing guarded s := by
  intro pool budget limited
  obtain ⟨remaining, found, amounts⟩ := lookup_updateRemainingResources existing limits limited
  refine ⟨remaining, start ▸ found, fun name limit here => ?_⟩
  have room := within pool budget name limit limited here
  refine ⟨limit - used existing pool name, by rw [amounts, here]; rfl, sub_nonneg.mpr room, ?_, fun _ _ => ?_⟩
  · simp [fresh, charge]
  · simpa [fresh, created] using room

/-- Rearranging or shrinking the NodeClaims frees resources only. -/
theorem WithinLimits.shrink (holds : WithinLimits limits existing guarded s)
    (same : next.remainingResources = s.remainingResources)
    (charges : ∀ pool name, charge next.newNodeClaims pool name ≤ charge s.newNodeClaims pool name)
    (counts : ∀ pool, created next.newNodeClaims pool = created s.newNodeClaims pool) :
    WithinLimits limits existing guarded next := by
  intro pool budget limited
  obtain ⟨remaining, found, each⟩ := holds pool budget limited
  refine ⟨remaining, same ▸ found, fun name limit here => ?_⟩
  obtain ⟨left, inRemaining, facts⟩ := each name limit here
  refine ⟨left, inRemaining, facts.nonneg, ?_, ?_⟩
  · exact (add_le_add le_rfl (charges pool name)).trans facts.charged
  · rw [counts]
    exact facts.counted

variable (enough : guarded → ∀ s a, guard s a → NodesLeft settings s a)

include enough

theorem WithinLimits.create (holds : WithinLimits limits existing guarded s) (allowed : guard s a)
    (ok : s.addToNewNodeClaim settings a = some (some next)) : WithinLimits limits existing guarded next := by
  obtain ⟨index, template, n, result, placed, rm, accepts, tried, added, rfl⟩ := addToNewNodeClaim_inv ok
  obtain ⟨groups, its, _, offered, rfl, accepted⟩ := accepts
  obtain ⟨shrinks, nonempty⟩ := shrinks_of_add accepted added
  have options : placed.instanceTypeOptions ⊆ its := shrinks.options
  have pool' : placed.nodePoolName = template.nodePoolName := shrinks.nodePoolName
  rw [pool']
  intro pool budget limited
  obtain ⟨remaining, found, each⟩ := holds pool budget limited
  by_cases same : template.nodePoolName = pool
  · subst same
    refine ⟨subtractMax remaining placed.instanceTypeOptions, by simp [found], ?_⟩
    intro name limit here
    obtain ⟨left, inRemaining, facts⟩ := each name limit here
    have fit : largest placed.instanceTypeOptions name ≤ left := largest_le name facts.nonneg
      fun it member => optionsWithinLimits_spec offered found it (options member) name left inRemaining
    refine ⟨left - largest placed.instanceTypeOptions name, ?_, sub_nonneg.mpr fit, ?_, ?_⟩
    · simp only [subtractMax, List.isEmpty_iff, nonempty, if_false, Resources.lookup_subtract, inRemaining]
      rfl
    · rw [charge_append, if_pos pool']
      linarith [facts.charged]
    · intro guards isNode
      subst isNode
      have room : (created s.newNodeClaims template.nodePoolName : ℚ) + 1 ≤ left :=
        enough guards s a allowed _ result tried remaining left found inRemaining
      have charged := facts.charged
      have positive := charge_nonneg s.newNodeClaims template.nodePoolName node
      rw [created_append, if_pos pool', Nat.cast_add, Nat.cast_one]
      linarith
  · refine ⟨remaining, (AList.lookup_insert_ne (Ne.symm same)).trans found, fun name limit here => ?_⟩
    obtain ⟨left, inRemaining, facts⟩ := each name limit here
    have elsewhere : placed.nodePoolName ≠ pool := fun h => same (pool'.symm.trans h)
    refine ⟨left, inRemaining, facts.nonneg, ?_, ?_⟩
    · rw [charge_append, if_neg elsewhere, add_zero]
      exact facts.charged
    · rw [created_append, if_neg elsewhere, add_zero]
      exact facts.counted

theorem WithinLimits.step (holds : WithinLimits limits existing guarded s)
    (step : Scheduler.Step settings guard s next) : WithinLimits limits existing guarded next := by
  cases step with
  | sort order =>
    exact holds.shrink rfl (fun _ _ => (charge_perm _ order).le) fun _ => order.countP_eq _
  | inflight a placed =>
    obtain ⟨found, here, mapped⟩ := Option.map_eq_some_iff.mp placed
    obtain ⟨⟨claims, rm⟩, rfl, rest⟩ := Option.map_eq_some_iff.mp mapped
    cases rest
    have shrunk := placeInflight_spec here
    exact holds.shrink rfl (fun _ _ => (charge_shrinks _ shrunk).1) fun _ => (charge_shrinks "" shrunk).2
  | fresh a refused allowed placed => exact holds.create enough allowed placed

theorem WithinLimits.reaches (holds : WithinLimits limits existing guarded start)
    (run : Scheduler.Reaches settings guard start s) : WithinLimits limits existing guarded s := by
  induction run with
  | refl => exact holds
  | tail _ step ih => exact ih.step enough step

end Invariant

/-- What a NodeClaim adds to its NodePool when it is launched as an instance type. -/
def launched (it : InstanceType) : ResourceList := it.capacity.insert node 1

theorem amount_launched (it : InstanceType) (name : String) :
    amount (launched it) name = if name = node then 1 else amount it.capacity name := by
  unfold amount launched
  rw [Map.lookup_insert_eq]
  split <;> rfl

/-- After every loop each choice of one option for each new NodeClaim keeps every limited resource within
its limit; for the resource `nodes`, in loops that create NodeClaims only where nodes are left. -/
theorem limits_hold {settings : Settings} {guard : Scheduler → Attempt → Prop}
    {limits : Map String ResourceList} {existing : List StateNode} {start s : Scheduler}
    (fresh : start.newNodeClaims = [])
    (resources : start.remainingResources = existing.foldl updateRemainingResources limits)
    (within : ∀ pool budget name limit, limits.lookup pool = some budget → budget.lookup name = some limit →
      used existing pool name ≤ limit) (run : Scheduler.Reaches settings guard start s)
    {pool name : String} {budget : ResourceList} {limit : ℚ}
    (limited : limits.lookup pool = some budget) (bound : budget.lookup name = some limit)
    (condition : name = node → ∀ s a, guard s a → NodesLeft settings s a) {chosen : List InstanceType}
    (options : List.Forall₂ (fun n it => it ∈ n.instanceTypeOptions)
      (s.newNodeClaims.filter fun n => n.nodePoolName = pool) chosen) :
    used existing pool name + (chosen.map fun it => amount (launched it) name).sum ≤ limit := by
  obtain ⟨remaining, -, each⟩ := (withinLimits_start fresh resources within).reaches id run pool budget limited
  obtain ⟨left, -, facts⟩ := each name limit bound
  obtain ⟨covered, count⟩ := chosen_le_charge name options
  by_cases isNode : name = node
  · have nodes := facts.counted (condition isNode) isNode
    rw [← count] at nodes
    simpa [amount_launched, isNode] using nodes
  · have charged := facts.charged
    have positive := facts.nonneg
    simp only [amount_launched, if_neg isNode]
    linarith

/-- One instance type with room for one of the pods below. -/
def singleType : InstanceType := coresType "small" 2

/-- A NodePool limited to one node. -/
def singleNodeLimits : Map String ResourceList := AList.insert "default" (AList.insert node 1 ∅) ∅

def singleScheduler : Scheduler where
  nodeClaimTemplates := [({ nodePoolName := "default", instanceTypeOptions := [singleType] },
    [{ instanceTypes := [singleType] }])]
  remainingResources := singleNodeLimits

def singleAttempt (name : String) : Attempt where
  pod := { key := ⟨"default", name⟩ }
  podData :=
    { requests := AList.insert "cpu" 2 ∅
      requirements := Requirements.empty
      strictRequirements := Requirements.empty }
  collaborators := fun _ => { addRequirements := fun _ _ _ _ => .ok Requirements.empty }
  hostname := fun _ => name

/-- The scheduler after new NodeClaims were created for pods of the given names. -/
def singleRun (names : List String) : Scheduler :=
  names.foldl (fun s name => s.afterCreation coreSettings (singleAttempt name)) singleScheduler

/-- With one NodeClaim the node is used up and the limit is met. -/
theorem limits_hold_single_node :
    used [] "default" node + ([singleType].map fun it => amount (launched it) node).sum ≤ 1 := by
  have left : NodesLeft coreSettings singleScheduler (singleAttempt "a") := by
    intro n result tried remaining left found nodes
    obtain ⟨index, template, groups, its, here, -, rfl, -⟩ := tryTemplates_spec List.drop_zero.symm tried
    have only := List.mem_singleton.mp (List.mem_of_getElem? here)
    obtain rfl : template = _ := congrArg Prod.fst only
    obtain rfl : AList.insert node 1 ∅ = remaining := Option.some.inj found
    obtain rfl : (1 : ℚ) = left := Option.some.inj nodes
    simp [singleScheduler, created]
  have within : ∀ pool budget name limit, singleNodeLimits.lookup pool = some budget →
      budget.lookup name = some limit → used [] pool name ≤ limit := by
    intro pool budget name limit limited bound
    have bounded : ∀ entry ∈ singleNodeLimits.entries, ∀ inner ∈ entry.2.entries, 0 ≤ inner.2 := by decide
    exact bounded ⟨pool, budget⟩ (Map.mem_entries_iff.mpr limited) ⟨name, limit⟩ (Map.mem_entries_iff.mpr bound)
  have run : Scheduler.Reaches coreSettings (NodesLeft coreSettings) singleScheduler (singleRun ["a"]) :=
    .single (.fresh (singleAttempt "a") rfl left (Scheduler.addToNewNodeClaim_eq (by decide +kernel)))
  have options : List.Forall₂ (fun n it => it ∈ n.instanceTypeOptions)
      ((singleRun ["a"]).newNodeClaims.filter fun n => n.nodePoolName = "default") [singleType] := by
    decide +kernel
  exact limits_hold rfl rfl within run (rfl : singleNodeLimits.lookup "default" = _) rfl
    (fun _ _ _ allowed => allowed) options

/-- Both pods get a NodeClaim of their own, although the NodePool may have one node. -/
theorem limits_exceeded_single_node :
    Scheduler.Reaches coreSettings (fun _ _ => True) singleScheduler (singleRun ["a", "b"]) ∧
    List.Forall₂ (fun n it => it ∈ n.instanceTypeOptions)
      ((singleRun ["a", "b"]).newNodeClaims.filter fun n => n.nodePoolName = "default")
      [singleType, singleType] ∧
    ¬ used [] "default" node + ([singleType, singleType].map fun it => amount (launched it) node).sum ≤ 1 := by
  refine ⟨?_, by decide +kernel, by decide +kernel⟩
  have first : Scheduler.Step coreSettings (fun _ _ => True) singleScheduler (singleRun ["a"]) :=
    .fresh (singleAttempt "a") rfl trivial (Scheduler.addToNewNodeClaim_eq (by decide +kernel))
  have second : Scheduler.Step coreSettings (fun _ _ => True) (singleRun ["a"]) (singleRun ["a", "b"]) :=
    .fresh (singleAttempt "b") (Scheduler.addToInflightNode_eq_none (by decide +kernel)) trivial
      (Scheduler.addToNewNodeClaim_eq (by decide +kernel))
  exact .head first (.single second)

end Karpenter.Provisioning
