import Karpenter.Disruption.Budget
import Mathlib.Data.Prod.Lex

/-! The order in which the nodes should lose their pods: nodes that go away anyway, then drifted ones and those that
consolidation would take, the best savings first and no more of a NodePool than its budgets allow. The rest get no
deletion cost. Whether a node and its pods can be disrupted, and what a node costs, are read from outside. -/
namespace Karpenter.DeletionCost

open Go (Map)
open Disruption (BudgetNode BudgetedNodePool BudgetClock DisruptionReason count increment nodesIn)

/-- A pod with the API version and kind of its controller reference. -/
structure HostedPod extends State.Pod where
  controller : Option (String × String) := none
  reschedulable : Bool := true

/-- A node of the cluster state. `nodePool` and `instanceType` are its labels, `disruptedNoScheduleTaint` says that it
has a Node with that taint, and `nodeDisruptable` and `podsDisruptable` are the outcomes of the validations. Without
`pods` the listing failed. -/
structure RankedNode extends BudgetNode where
  name : String
  instanceType : String := ""
  disruptedNoScheduleTaint : Bool := false
  nodeDisruptable : Bool := true
  podsDisruptable : Bool := true
  pods : Option (List HostedPod) := some []
  drifted : Bool := false

structure RankedNodePool extends BudgetedNodePool where
  isStatic : Bool := false
  consolidateAfter : Option Int := none

/-- What the ranking reads besides the nodes. A missing map of instance types is the nil map. -/
structure Inputs (ι : Type) where
  clock : BudgetClock
  podDeletionCostManagement : Bool := true
  nodePoolMap : Map String RankedNodePool
  nodePoolToInstanceTypesMap : Option (Map String (Map String ι)) := none
  offeringPrice : RankedNode → ι → Option ℚ
  nodeClaimPrice : RankedNode → Option ι → Option ℚ

inductive NodePartition where
  | disrupted
  | drifted
  | normal
  | cleanupOnly
deriving DecidableEq

structure Groups where
  groupA : List RankedNode
  groupBC : List RankedNode
  groupD : List RankedNode

def recreatingControllers : List (String × String) :=
  [("apps/v1", "ReplicaSet"), ("batch/v1", "Job"), ("apps/v1", "DaemonSet")]

def HostedPod.isControlledBy (pod : HostedPod) (gvks : List (String × String)) : Bool := pod.controller.any gvks.contains

def hasPinningPods (pods : List HostedPod) : Bool :=
  pods.any fun pod => decide (pod.key.namespaceName ≠ "kube-system") && !pod.isControlledBy recreatingControllers

def RankedNode.isGoingAway (node : RankedNode) : Bool := node.markedForDeletion || node.disruptedNoScheduleTaint

/-- The pods of the node, none if they could not be listed or one of them must not be disrupted. -/
def RankedNode.validatePodsDisruptable (node : RankedNode) : Option (List HostedPod) :=
  if node.podsDisruptable then node.pods else none

/-- Price per cost of rescheduling. The cost is at least that of a node without pods, so the check for zero never
panics. -/
def savingsRatio (price rescheduleDisruptionCost : ℚ) : ℚ := price / rescheduleDisruptionCost

def rankForBC (i n : Nat) : Int := -n + i

/-- The nodes in order until the budget of their NodePool is used up, and those for which it was. -/
def applyPerNodePoolBudget (budget used : Map String Int) : List RankedNode → List RankedNode × List RankedNode
  | [] => ([], [])
  | node :: nodes =>
    if count used node.nodePool < count budget node.nodePool then
      let rest := applyPerNodePoolBudget budget (increment used node.nodePool) nodes
      (node :: rest.1, rest.2)
    else
      let rest := applyPerNodePoolBudget budget used nodes
      (rest.1, node :: rest.2)

namespace Inputs

variable {ι : Type} (inputs : Inputs ι)

def instanceTypeOf (node : RankedNode) : Option ι :=
  (inputs.nodePoolToInstanceTypesMap.bind (·.lookup node.nodePool)).bind (·.lookup node.instanceType)

/-- Nothing is unpriceable if nothing is priced, or for a node that lacks one of the labels. -/
def isUnpriceable (node : RankedNode) : Bool :=
  inputs.nodePoolToInstanceTypesMap.isSome && decide (node.nodePool ≠ "") && decide (node.instanceType ≠ "") &&
    (inputs.instanceTypeOf node).isNone

def isConsolidationDisabled (node : RankedNode) : Bool :=
  decide (node.nodePool ≠ "") && (inputs.nodePoolMap.lookup node.nodePool).any (·.consolidateAfter.isNone)

def isDrifted (node : RankedNode) : Bool :=
  node.managed && !(inputs.nodePoolMap.lookup node.nodePool).any (·.isStatic) && node.drifted

def classifyDisruptableNode (node : RankedNode) : NodePartition :=
  match node.validatePodsDisruptable with
  | none => .cleanupOnly
  | some pods =>
    if hasPinningPods pods || inputs.isUnpriceable node then .cleanupOnly
    else if inputs.isDrifted node then .drifted
    else if inputs.isConsolidationDisabled node then .cleanupOnly
    else .normal

def classifyNode (node : RankedNode) : NodePartition :=
  if node.isGoingAway then .disrupted
  else if !node.nodeDisruptable then .cleanupOnly
  else inputs.classifyDisruptableNode node

/-- The price of the NodeClaim if there is one, and zero if it is unknown or negative. -/
def price (node : RankedNode) : ℚ :=
  let it := inputs.instanceTypeOf node
  if node.managed then ((inputs.nodeClaimPrice node it).filter fun price => decide (0 ≤ price)).getD 0
  else (it.bind (inputs.offeringPrice node)).getD 0

def computeRescheduleDisruptionCost (reschedulablePods : List HostedPod) : ℚ :=
  reschedulablePods.foldl (fun cost pod => cost + max 0 (State.evictionCost inputs.podDeletionCostManagement pod.toPod))
    State.StateNode.perNodeBaseDisruptionCost

def ratio (node : RankedNode) : ℚ :=
  let reschedulable := (node.pods.getD []).filter (·.reschedulable)
  savingsRatio (inputs.price node) (inputs.computeRescheduleDisruptionCost reschedulable)

/-- The comparison of the sort, with the ratios by name. -/
def before (ratios : Map String ℚ) (a b : RankedNode) : Bool :=
  let ra := (ratios.lookup a.name).getD 0
  let rb := (ratios.lookup b.name).getD 0
  if ra ≠ rb then decide (ra > rb) else decide (a.name < b.name)

def sortBySavingsRatio (nodes : List RankedNode) : List RankedNode :=
  if nodes.length ≤ 1 then nodes
  else
    let ratios := Map.ofList (nodes.map fun node => (node.name, inputs.ratio node))
    nodes.insertionSort fun a b => before ratios b a = false

def budgetFor (nodes : List RankedNode) (reason : DisruptionReason) : Map String Int :=
  Disruption.nodePoolBudgetMap inputs.clock (inputs.nodePoolMap.mapValues fun _ np => np.toBudgetedNodePool)
    (Disruption.nodePoolStatsFromNodes (nodes.map (·.toBudgetNode)) reason) reason

def rankNodes (nodes : List RankedNode) : Groups :=
  let nodes := inputs.sortBySavingsRatio (nodes.filter (·.managed))
  let group (p : NodePartition) := nodes.filter fun node => decide (inputs.classifyNode node = p)
  let drifted := applyPerNodePoolBudget (inputs.budgetFor nodes .drifted) ∅ (group .drifted)
  let normal := applyPerNodePoolBudget (inputs.budgetFor nodes .underutilized) ∅ (group .normal)
  { groupA := group .disrupted
    groupBC := drifted.1 ++ normal.1
    groupD := group .cleanupOnly ++ drifted.2 ++ normal.2 }

end Inputs

/-- What one pass under a budget does: it keeps the first nodes of every NodePool, as many as are left of its budget. -/
structure Cut (budget used : Map String Int) (nodes : List RankedNode) (cut : List RankedNode × List RankedNode) :
    Prop where
  perm : (cut.1 ++ cut.2).Perm nodes
  order : cut.1.Sublist nodes
  within : ∀ pool, (cut.1.countP fun node => decide (node.nodePool = pool) : Int) ≤
    max (count budget pool - count used pool) 0
  earliest : ∀ {R : RankedNode → RankedNode → Prop}, nodes.Pairwise R →
    ∀ kept ∈ cut.1, ∀ dropped ∈ cut.2, kept.nodePool = dropped.nodePool → R kept dropped

theorem cut_applyPerNodePoolBudget (budget used : Map String Int) (nodes : List RankedNode) :
    Cut budget used nodes (applyPerNodePoolBudget budget used nodes) := by
  fun_induction applyPerNodePoolBudget budget used nodes with
  | case1 used =>
    refine ⟨.refl _, .refl _, fun pool => ?_, by simp⟩
    simp
  | case2 used node nodes room rest ih =>
    change Cut budget (increment used node.nodePool) nodes rest at ih
    refine ⟨ih.perm.cons node, ih.order.cons_cons node, fun pool => ?_, fun ordered kept member dropped out same => ?_⟩
    · have bound := ih.within pool
      rw [Disruption.count_increment] at bound
      by_cases here : node.nodePool = pool
      · subst here
        simp only [if_true] at bound
        simp only [List.countP_cons, decide_true, if_true]
        rw [le_max_iff] at bound ⊢
        omega
      · simpa [here] using bound
    · obtain ⟨first, ordered⟩ := List.pairwise_cons.mp ordered
      rcases List.mem_cons.mp member with rfl | member
      · exact first dropped (ih.perm.mem_iff.mp (List.mem_append_right _ out))
      · exact ih.earliest ordered kept member dropped out same
  | case3 used node nodes full rest ih =>
    change Cut budget used nodes rest at ih
    refine ⟨List.perm_middle.trans (ih.perm.cons node), ih.order.cons node, ih.within,
      fun ordered kept member dropped out same => ?_⟩
    obtain ⟨-, ordered⟩ := List.pairwise_cons.mp ordered
    rcases List.mem_cons.mp out with rfl | out
    · -- The budget was used up before this node, so none of its NodePool is kept after it.
      have none_left : (rest.1.countP fun node => decide (node.nodePool = kept.nodePool) : Int) ≤ 0 := by
        have bound := ih.within kept.nodePool
        rw [same, le_max_iff] at bound
        rw [same]
        omega
      have counted : 0 < rest.1.countP fun node => decide (node.nodePool = kept.nodePool) :=
        List.countP_pos_iff.mpr ⟨kept, member, by simp⟩
      omega
    · exact ih.earliest ordered kept member dropped out same

namespace Inputs

variable {ι : Type} (inputs : Inputs ι)

variable {nodes : List RankedNode}

theorem lookup_ratios (distinct : (nodes.map (·.name)).Nodup) (member : node ∈ nodes) :
    (Map.ofList (nodes.map fun node => (node.name, inputs.ratio node))).lookup node.name =
      some (inputs.ratio node) := by
  have present : node.name ∈ (nodes.map fun node => (node.name, inputs.ratio node)).map (·.1) := by
    simpa using ⟨node, member, rfl⟩
  obtain ⟨value, found⟩ := Option.isSome_iff_exists.mp ((Map.isSome_lookup_ofList _ _).mpr present)
  obtain ⟨other, otherMember, same⟩ := List.mem_map.mp (Map.mem_of_lookup_ofList found)
  obtain ⟨sameName, rfl⟩ := Prod.mk.inj same
  rw [found, List.inj_on_of_nodup_map distinct otherMember member sameName]

/-- What the sort compares, as a key: the larger ratio first, then the name. -/
def sortKey (ratios : Map String ℚ) (node : RankedNode) : ℚ ×ₗ String :=
  toLex (-(ratios.lookup node.name).getD 0, node.name)

theorem before_eq_false : before ratios b a = false ↔ sortKey ratios a ≤ sortKey ratios b := by
  rw [sortKey, sortKey, Prod.Lex.toLex_le_toLex, before, neg_lt_neg_iff, neg_inj]
  split
  · rename_i different
    simp [le_iff_lt_or_eq, different, Ne.symm different]
  · rename_i same
    rw [decide_eq_false_iff_not, not_lt, not_not.mp same, and_iff_right rfl, or_iff_right (lt_irrefl _)]

theorem sorted_sortBySavingsRatio (distinct : (nodes.map (·.name)).Nodup) :
    (inputs.sortBySavingsRatio nodes).Perm nodes ∧
      (inputs.sortBySavingsRatio nodes).Pairwise fun a b => inputs.ratio b ≤ inputs.ratio a := by
  rw [sortBySavingsRatio]
  split
  · rename_i short
    refine ⟨.refl _, ?_⟩
    rcases nodes with _ | ⟨node, _ | ⟨other, nodes⟩⟩
    · exact .nil
    · exact List.pairwise_singleton _ node
    · simp at short
  · refine ⟨List.perm_insertionSort _ nodes, ?_⟩
    generalize listed : Map.ofList (nodes.map fun node => (node.name, inputs.ratio node)) = ratios
    have total : Std.Total fun a b : RankedNode => before ratios b a = false :=
      ⟨fun a b => by simpa only [before_eq_false] using le_total (sortKey ratios a) (sortKey ratios b)⟩
    have trans : IsTrans RankedNode fun a b => before ratios b a = false :=
      ⟨fun a b c => by simpa only [before_eq_false] using le_trans⟩
    have sorted := List.pairwise_insertionSort (fun a b : RankedNode => before ratios b a = false) nodes
    refine sorted.imp_of_mem fun {a b} left right first => ?_
    rw [List.mem_insertionSort] at left right
    rw [before_eq_false, sortKey, sortKey, Prod.Lex.toLex_le_toLex, ← listed, lookup_ratios inputs distinct left,
      lookup_ratios inputs distinct right, Option.getD_some, Option.getD_some, neg_lt_neg_iff, neg_inj] at first
    rcases first with less | ⟨same, -⟩
    · exact less.le
    · exact same.ge

/-- What is left of a NodePool's budget: what is allowed for its size, less the managed nodes that consume budget. -/
def remainingBudget (nodes : List RankedNode) (reason : DisruptionReason) (pool : String) : Int :=
  let managed := (nodes.filter (·.managed)).map (·.toBudgetNode)
  (inputs.nodePoolMap.lookup pool).elim 0 fun np =>
    max (np.mustGetAllowedDisruptions inputs.clock (nodesIn BudgetNode.counts managed pool) reason -
      nodesIn (fun n => n.counts && n.disrupts reason) managed pool) 0

theorem count_budgetFor (perm : sorted.Perm (nodes.filter (·.managed))) (reason : DisruptionReason) (pool : String) :
    count (inputs.budgetFor sorted reason) pool = inputs.remainingBudget nodes reason pool := by
  have same (p : BudgetNode → Bool) : nodesIn p (sorted.map (·.toBudgetNode)) pool =
      nodesIn p ((nodes.filter (·.managed)).map (·.toBudgetNode)) pool :=
    congrArg Nat.cast ((perm.map _).countP_eq _)
  rw [budgetFor, Disruption.count_nodePoolBudgetMap, Map.lookup_mapValues, same, same, remainingBudget]
  cases inputs.nodePoolMap.lookup pool <;> rfl

theorem remainingBudget_nonneg (nodes : List RankedNode) (reason : DisruptionReason) (pool : String) :
    0 ≤ inputs.remainingBudget nodes reason pool := by
  rw [remainingBudget]
  cases inputs.nodePoolMap.lookup pool with
  | none => exact le_rfl
  | some np => exact le_max_right _ _

/-- The nodes of one class, cut by the budget for a reason. -/
def selected (nodes : List RankedNode) (p : NodePartition) (reason : DisruptionReason) :
    List RankedNode × List RankedNode :=
  let sorted := inputs.sortBySavingsRatio (nodes.filter (·.managed))
  applyPerNodePoolBudget (inputs.budgetFor sorted reason) ∅
    (sorted.filter fun node => decide (inputs.classifyNode node = p))

/-- What the ranking is for. The nodes that are in the last group for the budget alone are those of the class `drifted`
or `normal`. -/
structure Ranks (nodes : List RankedNode) (groups : Groups) : Prop where
  partition : (groups.groupA ++ groups.groupBC ++ groups.groupD).Perm (nodes.filter (·.managed))
  classes : ∀ node ∈ groups.groupBC, inputs.classifyNode node = .drifted ∨ inputs.classifyNode node = .normal
  driftBudget : ∀ pool, (groups.groupBC.countP fun node =>
      decide (inputs.classifyNode node = .drifted ∧ node.nodePool = pool) : Int) ≤
    inputs.remainingBudget nodes .drifted pool
  consolidationBudget : ∀ pool, (groups.groupBC.countP fun node =>
      decide (inputs.classifyNode node = .normal ∧ node.nodePool = pool) : Int) ≤
    inputs.remainingBudget nodes .underutilized pool
  driftedFirst : groups.groupBC.Pairwise fun a b =>
    inputs.classifyNode b = .drifted → inputs.classifyNode a = .drifted
  ratios : groups.groupBC.Pairwise fun a b =>
    inputs.classifyNode a = inputs.classifyNode b → inputs.ratio b ≤ inputs.ratio a
  best : ∀ kept ∈ groups.groupBC, ∀ dropped ∈ groups.groupD, kept.nodePool = dropped.nodePool →
    inputs.classifyNode kept = inputs.classifyNode dropped → inputs.ratio dropped ≤ inputs.ratio kept
  ranks : ((List.range groups.groupBC.length).map (rankForBC · groups.groupBC.length)).Pairwise (· < ·)
  negative : ∀ i < groups.groupBC.length, rankForBC i groups.groupBC.length < 0

/-- One class after the cut: the nodes of the class are kept or dropped, the kept ones in the order of the sort. -/
structure Selected (nodes : List RankedNode) (p : NodePartition) (reason : DisruptionReason)
    (cut : List RankedNode × List RankedNode) : Prop where
  perm : (cut.1 ++ cut.2).Perm
    ((nodes.filter (·.managed)).filter fun node => decide (inputs.classifyNode node = p))
  within : ∀ pool, (cut.1.countP fun node => decide (node.nodePool = pool) : Int) ≤
    inputs.remainingBudget nodes reason pool
  ratios : cut.1.Pairwise fun a b => inputs.ratio b ≤ inputs.ratio a
  best : ∀ kept ∈ cut.1, ∀ dropped ∈ cut.2, kept.nodePool = dropped.nodePool → inputs.ratio dropped ≤ inputs.ratio kept

theorem selected_spec (distinct : (nodes.map (·.name)).Nodup) (p : NodePartition) (reason : DisruptionReason) :
    inputs.Selected nodes p reason (inputs.selected nodes p reason) := by
  obtain ⟨perm, sorted⟩ := inputs.sorted_sortBySavingsRatio
    (distinct.sublist (List.Sublist.map RankedNode.name (List.filter_sublist (p := (·.managed)))))
  have cut := cut_applyPerNodePoolBudget
    (inputs.budgetFor (inputs.sortBySavingsRatio (nodes.filter (·.managed))) reason) ∅
    ((inputs.sortBySavingsRatio (nodes.filter (·.managed))).filter fun node => decide (inputs.classifyNode node = p))
  have sorted := sorted.filter fun node => decide (inputs.classifyNode node = p)
  refine ⟨cut.perm.trans (perm.filter _), fun pool => ?_, sorted.sublist cut.order, cut.earliest sorted⟩
  have within := cut.within pool
  rwa [inputs.count_budgetFor perm, show count ∅ pool = 0 from rfl, sub_zero,
    max_eq_left (inputs.remainingBudget_nonneg nodes reason pool)] at within

section Classes

variable {inputs} {nodes : List RankedNode}

theorem Selected.class_eq (sel : inputs.Selected nodes p reason cut) (member : node ∈ cut.1 ++ cut.2) :
    inputs.classifyNode node = p :=
  of_decide_eq_true (List.mem_filter.mp (sel.perm.mem_iff.mp member)).2

theorem Selected.class_kept (sel : inputs.Selected nodes p reason cut) (member : node ∈ cut.1) :
    inputs.classifyNode node = p :=
  sel.class_eq (List.mem_append_left _ member)

theorem Selected.class_dropped (sel : inputs.Selected nodes p reason cut) (member : node ∈ cut.2) :
    inputs.classifyNode node = p :=
  sel.class_eq (List.mem_append_right _ member)

theorem Selected.countP_class (sel : inputs.Selected nodes p reason cut) (q : NodePartition) (pool : String) :
    (cut.1.countP fun node => decide (inputs.classifyNode node = q ∧ node.nodePool = pool)) =
      if p = q then cut.1.countP fun node => decide (node.nodePool = pool) else 0 := by
  split
  · rename_i same
    exact List.countP_congr fun node member => by simp [sel.class_kept member, same]
  · rename_i different
    exact List.countP_eq_zero.mpr fun node member => by simp [sel.class_kept member, different]

theorem count_class [DecidableEq RankedNode] (node : RankedNode) :
    (nodes.filter fun node => decide (inputs.classifyNode node = p)).count node =
      if inputs.classifyNode node = p then nodes.count node else 0 := by
  split
  · rename_i same
    exact List.count_filter (decide_eq_true same)
  · rename_i different
    rw [List.count_eq_zero, List.mem_filter, decide_eq_true_iff]
    exact fun member => different member.2

end Classes

/-- Every managed node has one class, and is kept or dropped within it. -/
theorem partition_rankNodes (distinct : (nodes.map (·.name)).Nodup) :
    ((inputs.rankNodes nodes).groupA ++ (inputs.rankNodes nodes).groupBC ++ (inputs.rankNodes nodes).groupD).Perm
      (nodes.filter (·.managed)) := by
  classical
  have drifted := inputs.selected_spec distinct .drifted .drifted
  have normal := inputs.selected_spec distinct .normal .underutilized
  obtain ⟨perm, -⟩ := inputs.sorted_sortBySavingsRatio
    (distinct.sublist (List.Sublist.map RankedNode.name (List.filter_sublist (p := (·.managed)))))
  rw [List.perm_iff_count]
  intro node
  have kept := drifted.perm.count_eq node
  have others := normal.perm.count_eq node
  rw [List.count_append, count_class] at kept others
  have classes : (inputs.rankNodes nodes).groupD = _ ++ (inputs.selected nodes .drifted .drifted).2 ++
    (inputs.selected nodes .normal .underutilized).2 := rfl
  have ranked : (inputs.rankNodes nodes).groupBC = (inputs.selected nodes .drifted .drifted).1 ++
    (inputs.selected nodes .normal .underutilized).1 := rfl
  rw [classes, ranked]
  simp only [List.count_append, rankNodes, count_class, perm.count_eq]
  cases which : inputs.classifyNode node <;> simp only [which, reduceCtorEq, if_false, if_true] at kept others ⊢ <;> omega

/-- For all nodes with distinct names. -/
theorem ranks_rankNodes (nodes : List RankedNode) (distinct : (nodes.map (·.name)).Nodup) :
    inputs.Ranks nodes (inputs.rankNodes nodes) := by
  have drifted := inputs.selected_spec distinct .drifted .drifted
  have normal := inputs.selected_spec distinct .normal .underutilized
  have ranked : (inputs.rankNodes nodes).groupBC = (inputs.selected nodes .drifted .drifted).1 ++
    (inputs.selected nodes .normal .underutilized).1 := rfl
  constructor
  case partition => exact inputs.partition_rankNodes distinct
  case classes =>
    intro node member
    exact (List.mem_append.mp member).imp drifted.class_kept normal.class_kept
  case driftBudget =>
    intro pool
    rw [ranked, List.countP_append, drifted.countP_class, normal.countP_class]
    simpa using drifted.within pool
  case consolidationBudget =>
    intro pool
    rw [ranked, List.countP_append, drifted.countP_class, normal.countP_class]
    simpa using normal.within pool
  case driftedFirst =>
    refine List.pairwise_append.mpr ⟨?_, ?_, fun a first _ _ _ => drifted.class_kept first⟩
    · exact drifted.ratios.imp_of_mem fun first _ _ _ => drifted.class_kept first
    · refine normal.ratios.imp_of_mem fun _ second _ isDrifted => ?_
      rw [normal.class_kept second] at isDrifted
      cases isDrifted
  case ratios =>
    refine List.pairwise_append.mpr ⟨?_, ?_, fun a first b second same => ?_⟩
    · refine drifted.ratios.imp ?_
      exact fun le _ => le
    · refine normal.ratios.imp ?_
      exact fun le _ => le
    · rw [drifted.class_kept first, normal.class_kept second] at same
      cases same
  case best =>
    intro kept member dropped out pool same
    have either := (List.mem_append.mp member).imp drifted.class_kept normal.class_kept
    rcases List.mem_append.mp out with out | out
    · rcases List.mem_append.mp out with cleanup | out
      · have class_eq := of_decide_eq_true (List.mem_filter.mp cleanup).2
        rw [same, class_eq] at either
        simp at either
      · rcases List.mem_append.mp member with member | member
        · exact drifted.best kept member dropped out pool
        · rw [normal.class_kept member, drifted.class_dropped out] at same
          cases same
    · rcases List.mem_append.mp member with member | member
      · rw [drifted.class_kept member, normal.class_dropped out] at same
        cases same
      · exact normal.best kept member dropped out pool
  case ranks =>
    refine List.pairwise_map.mpr (List.pairwise_lt_range.imp fun {i j} less => ?_)
    simp only [rankForBC]
    omega
  case negative =>
    intro i inside
    simp only [rankForBC]
    omega

/-- Two nodes of a NodePool whose budget allows one. -/
theorem ranks_rankNodes_two : let inputs : Inputs Unit := ⟨⟨0, fun _ => none, fun _ _ => some 1⟩, true,
      Map.ofList [("default", ⟨⟨"default", [⟨none, "1", none, none⟩]⟩, false, some 0⟩)], none, fun _ _ => none,
      fun node _ => if node.name = "a" then some 2 else some 3⟩
    let nodes : List RankedNode := [{ nodePool := "default", name := "a" }, { nodePool := "default", name := "b" }]
    (nodes.map (·.name)).Nodup ∧ (inputs.rankNodes nodes).groupBC.map (·.name) = ["b"] ∧
      inputs.Ranks nodes (inputs.rankNodes nodes) :=
  ⟨by decide, by decide +kernel, ranks_rankNodes _ _ (by decide)⟩

end Inputs

end Karpenter.DeletionCost
