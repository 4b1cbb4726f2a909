import Karpenter.Disruption.Command
import Karpenter.State.StateNode

/-! How many nodes of a NodePool may be disrupted: the least of what its active budgets allow, less the nodes that are
being disrupted. Cron schedules and the scaling of percentages are libraries of their own; an answer that does not
parse is an error, and with any error nothing is allowed. -/
namespace Karpenter.Disruption

open Go (Map)

inductive DisruptionReason where
  | underutilized
  | empty
  | drifted
  | unhealthy
deriving DecidableEq

structure Budget where
  reasons : Option (List DisruptionReason) := none
  nodes : String
  schedule : Option String := none
  duration : Option Int := none

/-- A NodePool with its disruption budgets. -/
structure BudgetedNodePool where
  name : String
  budgets : List Budget

/-- The time, and the libraries that read schedules and scaled values. -/
structure BudgetClock where
  now : Int
  /-- `cron.ParseStandard`: the next hit after a time. -/
  parseStandard : String → Option (Int → Int)
  /-- `intstr.GetScaledValueFromIntOrPercent`, rounding up. -/
  scaledValue : String → Int → Option Int

section Allowed

variable (clock : BudgetClock)

/-- The schedule hit within the duration before now. -/
def Budget.isActive (b : Budget) : Option Bool :=
  if b.schedule.isNone && b.duration.isNone then some true
  else (clock.parseStandard ("TZ=UTC " ++ b.schedule.getD "")).map fun next =>
    !decide (next (clock.now - b.duration.getD 0) > clock.now)

def maxInt32 : Int := 2 ^ 31 - 1

def Budget.getAllowedDisruptions (b : Budget) (numNodes : Int) : Option Int :=
  match b.isActive clock with
  | none => none
  | some false => some maxInt32
  | some true => clock.scaledValue b.nodes numNodes

/-- What is allowed so far, and whether there was an error: budgets for other reasons are read, too. -/
def addBudget (reason : DisruptionReason) (numNodes : Int) (sofar : Int × Bool) (b : Budget) : Int × Bool :=
  let val := b.getAllowedDisruptions clock numNodes
  (if b.reasons.all (·.contains reason) then min sofar.1 (val.getD 0) else sofar.1, sofar.2 || val.isNone)

def BudgetedNodePool.mustGetAllowedDisruptions (nodePool : BudgetedNodePool) (numNodes : Int)
    (reason : DisruptionReason) : Int :=
  let (allowedNodes, failed) := nodePool.budgets.foldl (addBudget clock reason numNodes) (maxInt32, false)
  if failed then 0 else allowedNodes

end Allowed

/-- What the budgets read of a node in the cluster state. -/
structure BudgetNode where
  nodePool : String
  managed : Bool := true
  initialized : Bool := true
  rebootInProgress : Bool := false
  rebootReinitializing : Bool := false
  instanceTerminating : Bool := false
  markedForDeletion : Bool := false
  ready : Bool := true

namespace BudgetNode

def rebootDisrupting (n : BudgetNode) : Bool := n.rebootInProgress || n.rebootReinitializing

/-- The node counts towards the size of its NodePool. -/
def counts (n : BudgetNode) : Bool :=
  n.managed && (n.initialized || n.rebootDisrupting) && !n.instanceTerminating

/-- The node consumes budget. A node that is not ready is what a repair is for, and does not hinder it. -/
def disrupts (reason : DisruptionReason) (n : BudgetNode) : Bool :=
  n.markedForDeletion || n.rebootDisrupting || (!n.ready && decide (reason ≠ .unhealthy))

end BudgetNode

/-- What an integer map holds for a key, zero if it does not have the key. -/
def count (m : Map String Int) (key : String) : Int := (m.lookup key).getD 0

def increment (m : Map String Int) (key : String) : Map String Int := m.insert key (count m key + 1)

def decrement (m : Map String Int) (key : String) : Map String Int := m.insert key (count m key - 1)

structure NodePoolStats where
  numNodes : Map String Int := ∅
  disrupting : Map String Int := ∅

def NodePoolStats.add (reason : DisruptionReason) (stats : NodePoolStats) (n : BudgetNode) : NodePoolStats :=
  if n.counts then
    { numNodes := increment stats.numNodes n.nodePool
      disrupting := if n.disrupts reason then increment stats.disrupting n.nodePool else stats.disrupting }
  else stats

def nodePoolStatsFromNodes (nodes : List BudgetNode) (reason : DisruptionReason) : NodePoolStats :=
  nodes.foldl (.add reason) {}

/-- The budget of a NodePool after the nodes that are being disrupted. -/
def remaining (clock : BudgetClock) (stats : NodePoolStats) (reason : DisruptionReason) (nodePool : BudgetedNodePool) :
    Int :=
  max (nodePool.mustGetAllowedDisruptions clock (count stats.numNodes nodePool.name) reason -
    count stats.disrupting nodePool.name) 0

def buildDisruptionBudgetMapping (clock : BudgetClock) (nodes : List BudgetNode) (nodePools : List BudgetedNodePool)
    (reason : DisruptionReason) : Map String Int :=
  nodePools.foldl (fun mapping nodePool =>
    mapping.insert nodePool.name (remaining clock (nodePoolStatsFromNodes nodes reason) reason nodePool)) ∅

section Counting

variable {m : Map String Int} {key other : String}

theorem count_insert (value : Int) : count (m.insert key value) other = if other = key then value else count m other := by
  rw [count, Map.lookup_insert_eq]
  split <;> rfl

theorem count_increment : count (increment m key) other = count m other + if key = other then 1 else 0 := by
  rw [increment, count_insert]
  by_cases same : other = key
  · subst same
    simp
  · simp [same, Ne.symm same]

/-- The nodes of a NodePool with a property. -/
def nodesIn (p : BudgetNode → Bool) (nodes : List BudgetNode) (nodePool : String) : Int :=
  nodes.countP fun n => p n && decide (n.nodePool = nodePool)

theorem nodesIn_concat (p : BudgetNode → Bool) (nodes : List BudgetNode) (n : BudgetNode) (nodePool : String) :
    nodesIn p (nodes ++ [n]) nodePool = nodesIn p nodes nodePool + if p n ∧ n.nodePool = nodePool then 1 else 0 := by
  rw [nodesIn, List.countP_append, List.countP_singleton, nodesIn]
  by_cases has : p n = true <;> by_cases same : n.nodePool = nodePool <;> simp [has, same]

/-- The counters hold the nodes that count, and those of them that consume budget. -/
theorem count_nodePoolStats (nodes : List BudgetNode) (reason : DisruptionReason) (nodePool : String) :
    count (nodePoolStatsFromNodes nodes reason).numNodes nodePool = nodesIn BudgetNode.counts nodes nodePool ∧
      count (nodePoolStatsFromNodes nodes reason).disrupting nodePool =
        nodesIn (fun n => n.counts && n.disrupts reason) nodes nodePool := by
  induction nodes using List.reverseRecOn with
  | nil => exact ⟨rfl, rfl⟩
  | append_singleton nodes n ih =>
    obtain ⟨numNodes, disrupting⟩ := ih
    rw [nodePoolStatsFromNodes] at numNodes disrupting
    rw [nodePoolStatsFromNodes, List.foldl_concat, NodePoolStats.add, nodesIn_concat, nodesIn_concat, ← numNodes,
      ← disrupting]
    by_cases counts : n.counts = true
    · by_cases disrupts : n.disrupts reason = true <;> simp [counts, disrupts, count_increment]
    · simp [counts]

end Counting

/-- What may be disrupted in a NodePool at a time: what is allowed for its size, less the nodes that consume budget. -/
def allowance (clock : BudgetClock) (nodes : List BudgetNode) (nodePools : List BudgetedNodePool)
    (reason : DisruptionReason) (name : String) : Int :=
  (nodePools.reverse.find? fun nodePool => decide (nodePool.name = name)).elim 0 fun nodePool =>
    max (nodePool.mustGetAllowedDisruptions clock (nodesIn BudgetNode.counts nodes name) reason -
      nodesIn (fun n => n.counts && n.disrupts reason) nodes name) 0

variable (clock : BudgetClock)

theorem allowance_nonneg (nodes : List BudgetNode) (nodePools : List BudgetedNodePool) (reason : DisruptionReason)
    (name : String) : 0 ≤ allowance clock nodes nodePools reason name := by
  rw [allowance]
  cases nodePools.reverse.find? _ with
  | none => exact le_rfl
  | some nodePool => exact le_max_right _ _

theorem count_buildDisruptionBudgetMapping (nodes : List BudgetNode) (nodePools : List BudgetedNodePool)
    (reason : DisruptionReason) (name : String) :
    count (buildDisruptionBudgetMapping clock nodes nodePools reason) name =
      allowance clock nodes nodePools reason name := by
  induction nodePools using List.reverseRecOn with
  | nil => rfl
  | append_singleton nodePools nodePool ih =>
    rw [buildDisruptionBudgetMapping] at ih
    rw [buildDisruptionBudgetMapping, List.foldl_concat, count_insert, ih, allowance, allowance, List.reverse_append,
      List.reverse_singleton, List.singleton_append, List.find?_cons]
    by_cases same : nodePool.name = name
    · obtain ⟨numNodes, disrupting⟩ := count_nodePoolStats nodes reason nodePool.name
      subst same
      rw [if_pos rfl, remaining, numNodes, disrupting]
      simp
    · rw [if_neg (Ne.symm same)]
      simp [same]

def nodePoolBudgetMap (clock : BudgetClock) (nodePools : Map String BudgetedNodePool) (stats : NodePoolStats)
    (reason : DisruptionReason) : Map String Int :=
  nodePools.mapValues fun name np =>
    max (np.mustGetAllowedDisruptions clock (count stats.numNodes name) reason - count stats.disrupting name) 0

/-- A NodePool that is not in the map has nothing left. -/
theorem count_nodePoolBudgetMap (nodePools : Map String BudgetedNodePool) (nodes : List BudgetNode)
    (reason : DisruptionReason) (name : String) :
    count (nodePoolBudgetMap clock nodePools (nodePoolStatsFromNodes nodes reason) reason) name =
      (nodePools.lookup name).elim 0 fun np =>
        max (np.mustGetAllowedDisruptions clock (nodesIn BudgetNode.counts nodes name) reason -
          nodesIn (fun n => n.counts && n.disrupts reason) nodes name) 0 := by
  obtain ⟨numNodes, disrupting⟩ := count_nodePoolStats nodes reason name
  rw [count, nodePoolBudgetMap, Map.lookup_mapValues, numNodes, disrupting]
  cases nodePools.lookup name <;> rfl

end Karpenter.Disruption
