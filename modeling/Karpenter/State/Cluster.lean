import Karpenter.State.StateNode

/-! The cluster state, kept up to date by events of Nodes, NodeClaims and pods. Nodes are tracked by provider ID;
names lead to provider IDs, and the resources of each NodePool are changed with every node. A step has no result
where the source would panic: at a name whose provider ID is not tracked, or at a write into a NodePool that has
no entry. Pods with anti-affinities, the state of NodePools and the times that metrics need are left out. -/
namespace Karpenter.State

open Go (Map)
open Resources (ResourceList subQuantities addQuantities)
open Scheduling

structure Cluster where
  nodes : Map String StateNode := ∅
  bindings : Map ObjectKey String := ∅
  nodeNameToProviderID : Map String String := ∅
  nodeClaimNameToProviderID : Map String String := ∅
  nodePoolResources : Map String ResourceList := ∅

/-- The NodePool that a node counts for and what it counts. A node with neither a Node nor a NodeClaim stands for
no node. -/
def usage : Option StateNode → String × ResourceList
  | none => ("", ∅)
  | some n =>
    if n.node.isNone && n.nodeClaim.isNone then ("", ∅)
    else
      let resources := if n.isMarkedForDeletion then ∅ else n.capacity
      (label n.labels nodePoolLabelKey,
        if resources.entries.isEmpty then resources else resources.insert Resources.node 1)

/-- Writes each of the resources into the entry of a NodePool. -/
def writeResources (change : ResourceList → ResourceList → ResourceList) (pools : Map String ResourceList)
    (nodePool : String) (resources : ResourceList) : Option (Map String ResourceList) :=
  if nodePool = "" ∨ resources.entries.isEmpty then some pools
  else (pools.lookup nodePool).map fun current => pools.insert nodePool (change current resources)

/-- Drops the entry of a NodePool that has no resources any more. -/
def collect (pools : Map String ResourceList) (nodePool : String) : Map String ResourceList :=
  if ((pools.lookup nodePool).getD ∅).entries.all fun entry => decide (entry.2 = 0) then pools.erase nodePool
  else pools

def updateNodePoolResources (pools : Map String ResourceList) (oldNode newNode : Option StateNode) :
    Option (Map String ResourceList) := do
  let (oldNodePoolName, oldResources) := usage oldNode
  let (newNodePoolName, newResources) := usage newNode
  let opened := if newNodePoolName ≠ "" ∧ (pools.lookup newNodePoolName).isNone
    then pools.insert newNodePoolName ∅ else pools
  let pools ← writeResources subQuantities opened oldNodePoolName oldResources
  let pools ← writeResources addQuantities pools newNodePoolName newResources
  pure (collect (collect pools oldNodePoolName) newNodePoolName)

namespace Cluster

/-- Replaces what is tracked under a provider ID, with the resources that come and go. -/
def track (c : Cluster) (id : String) (oldNode newNode : Option StateNode) : Option Cluster := do
  let pools ← updateNodePoolResources c.nodePoolResources oldNode newNode
  pure { c with
    nodes := newNode.elim (c.nodes.erase id) (c.nodes.insert id)
    nodePoolResources := pools }

def setMark (marked : Bool) (c : Cluster) (id : String) : Option Cluster :=
  match c.nodes.lookup id with
  | none => some c
  | some n => c.track id (some n) (some { n with markedForDeletion := marked })

def unmarkForDeletion (c : Cluster) (providerIDs : List String) : Option Cluster := providerIDs.foldlM (setMark false) c

def markForDeletion (c : Cluster) (providerIDs : List String) : Option Cluster := providerIDs.foldlM (setMark true) c

/-- Takes the NodeClaim off a node; nothing is left of a node without a Node. -/
def detachNodeClaim (c : Cluster) (id : String) : Option Cluster :=
  if id = "" then some c else do
    let n ← c.nodes.lookup id
    c.track id (some n) (if n.node.isNone then none else some { n with nodeClaim := none })

/-- The name is forgotten even if the NodeClaim was never launched. -/
def cleanupNodeClaim (c : Cluster) (name : String) : Option Cluster := do
  let c ← c.detachNodeClaim ((c.nodeClaimNameToProviderID.lookup name).getD "")
  pure { c with nodeClaimNameToProviderID := c.nodeClaimNameToProviderID.erase name }

def cleanupNode (c : Cluster) (name : String) : Option Cluster := do
  let id := (c.nodeNameToProviderID.lookup name).getD ""
  if id = "" then some c else do
    let n ← c.nodes.lookup id
    let c ← c.track id (some n) (if n.nodeClaim.isNone then none else some { n with node := none })
    pure { c with nodeNameToProviderID := c.nodeNameToProviderID.erase name }

/-- Everything known of the pods of the old node is taken over, except what evicting them costs. -/
def newStateFromNodeClaim (nodeClaim : NodeClaim) (oldNode : StateNode) : StateNode where
  node := oldNode.node
  nodeClaim := some nodeClaim
  daemonSetRequests := oldNode.daemonSetRequests
  podRequests := oldNode.podRequests
  podVersions := oldNode.podVersions
  hostPortUsage := oldNode.hostPortUsage
  volumeUsage := oldNode.volumeUsage
  markedForDeletion := oldNode.markedForDeletion

/-- What was tracked under a previous provider ID of the NodeClaim is cleaned up. -/
def cleanupMovedNodeClaim (c : Cluster) (nodeClaim : NodeClaim) : Option Cluster :=
  if (c.nodeClaimNameToProviderID.lookup nodeClaim.name).any (· ≠ nodeClaim.providerID)
  then c.cleanupNodeClaim nodeClaim.name else some c

/-- A NodeClaim without a provider ID has not been launched. -/
def trackNodeClaim (c : Cluster) (nodeClaim : NodeClaim) : Option Cluster :=
  if nodeClaim.providerID = "" then some c else do
    let oldNode := (c.nodes.lookup nodeClaim.providerID).getD {}
    let c ← c.cleanupMovedNodeClaim nodeClaim
    c.track nodeClaim.providerID (some oldNode) (some (newStateFromNodeClaim nodeClaim oldNode))

def updateNodeClaim (c : Cluster) (nodeClaim : NodeClaim) : Option Cluster := do
  let c ← c.trackNodeClaim nodeClaim
  pure { c with
    nodeClaimNameToProviderID := c.nodeClaimNameToProviderID.insert nodeClaim.name nodeClaim.providerID }

def deleteNodeClaim (c : Cluster) (name : String) : Option Cluster := c.cleanupNodeClaim name

def deleteNode (c : Cluster) (name : String) : Option Cluster := c.cleanupNode name

/-- A pod name that was used again on another node. -/
def cleanupOldBindings (c : Cluster) (pod : Pod) : Cluster :=
  match c.bindings.lookup pod.key with
  | none => c
  | some oldNodeName =>
    if oldNodeName = pod.nodeName then c
    else
      let id := (c.nodeNameToProviderID.lookup oldNodeName).getD ""
      match c.nodes.lookup id with
      | none => c
      | some oldNode => { c with
          nodes := c.nodes.insert id (oldNode.cleanupForPod pod.key)
          bindings := c.bindings.erase pod.key }

def bind (c : Cluster) (pod : Pod) : Cluster :=
  let c := c.cleanupOldBindings pod
  { c with bindings := c.bindings.insert pod.key pod.nodeName }

end Cluster

/-- What is read of the API server while a node is updated: the pods of the node, unless listing them fails, each
with its volumes, unless reading them fails, and the volume limits that each driver publishes, unless that fails.
A list has one pod of each name. -/
structure NodeRead where
  pods : Option (List (Pod × Option Volumes)) := some []
  drivers : Option (List (String × Option Int)) := some []
  distinct : ∀ listed ∈ pods, (listed.map (·.1.key)).Nodup := by rintro _ ⟨⟩; exact List.nodup_nil

/-- A node without pods, and without limits of volumes. -/
def NodeRead.noPods : NodeRead := {}

namespace Cluster

variable (podDeletionCostManagement : Bool)

/-- The node, the cluster with the bindings seen so far, and whether all pods could be read. -/
def populateResourceRequests : Cluster → StateNode → List (Pod × Option Volumes) → Cluster × StateNode × Bool
  | c, n, [] => (c, n, true)
  | c, n, (pod, volumes) :: rest =>
    if pod.terminal then populateResourceRequests c n rest
    else match volumes with
      | none => (c, n, false)
      | some volumes =>
        populateResourceRequests (c.bind pod) (n.updateForPod podDeletionCostManagement pod volumes) rest

def populateVolumeLimits (n : StateNode) (drivers : List (String × Option Int)) : StateNode :=
  { n with volumeUsage := drivers.foldl (fun usage driver =>
      driver.2.elim (usage.addUnbounded driver.1) (usage.addLimit driver.1)) n.volumeUsage }

/-- The pods of the node are read anew. If something cannot be read, there is no new node, but bindings that were
found on the way stay. -/
def newStateFromNode (c : Cluster) (node : Node) (oldNode : StateNode) (read : NodeRead) :
    Cluster × Option StateNode :=
  let n : StateNode := {
    node := some node
    nodeClaim := oldNode.nodeClaim
    markedForDeletion := oldNode.markedForDeletion }
  let (c, n, complete) := match read.pods with
    | none => (c, n, false)
    | some pods => populateResourceRequests podDeletionCostManagement c n pods
  (c, if complete then read.drivers.map (populateVolumeLimits n) else none)

/-- What was tracked under a previous provider ID of the Node is cleaned up. -/
def cleanupMovedNode (c : Cluster) (node : Node) : Option Cluster :=
  if (c.nodeNameToProviderID.lookup node.name).any (· ≠ node.providerID)
  then c.cleanupNode node.name else some c

def trackNode (c : Cluster) (node : Node) (read : NodeRead) : Option Cluster :=
  let oldNode := (c.nodes.lookup node.providerID).getD {}
  match c.newStateFromNode podDeletionCostManagement node oldNode read with
  | (c, none) => some c
  | (c, some n) => do
    let c ← c.cleanupMovedNode node
    -- Reading the pods may have changed the old node, too.
    let c ← c.track node.providerID (some ((c.nodes.lookup node.providerID).getD {})) (some n)
    pure { c with nodeNameToProviderID := c.nodeNameToProviderID.insert node.name node.providerID }

/-- A managed node is not tracked before it has a provider ID and, unless it is initialized, an instance type. -/
def updateNode (c : Cluster) (node : Node) (read : NodeRead) : Option Cluster :=
  let managed := label node.labels nodePoolLabelKey ≠ ""
  let initialized := label node.labels nodeInitializedLabelKey ≠ ""
  if node.providerID = "" ∧ managed then some c
  else if managed ∧ label node.labels labelInstanceTypeStable = "" ∧ ¬ initialized then some c
  else
    let providerID := if node.providerID = "" then node.name else node.providerID
    c.trackNode podDeletionCostManagement { node with providerID } read

/-- The pod cannot be tracked before its node is. -/
def updateNodeUsageFromPod (c : Cluster) (pod : Pod) (volumes : Option Volumes) : Cluster :=
  if pod.nodeName = "" then c
  else
    let id := (c.nodeNameToProviderID.lookup pod.nodeName).getD ""
    match c.nodes.lookup id, volumes with
    | some n, some volumes =>
      { c with nodes := c.nodes.insert id (n.updateForPod podDeletionCostManagement pod volumes) }.bind pod
    | _, _ => c

def updateNodeUsageFromPodCompletion (c : Cluster) (podKey : ObjectKey) : Cluster :=
  match c.bindings.lookup podKey with
  | none => c
  | some nodeName =>
    let c := { c with bindings := c.bindings.erase podKey }
    let id := (c.nodeNameToProviderID.lookup nodeName).getD ""
    match c.nodes.lookup id with
    | none => c
    | some n => { c with nodes := c.nodes.insert id (n.cleanupForPod podKey) }

def updatePod (c : Cluster) (pod : Pod) (volumes : Option Volumes) : Cluster :=
  if pod.terminal then c.updateNodeUsageFromPodCompletion pod.key
  else c.updateNodeUsageFromPod podDeletionCostManagement pod volumes

def deletePod (c : Cluster) (podKey : ObjectKey) : Cluster := c.updateNodeUsageFromPodCompletion podKey

end Cluster

inductive Event where
  | updateNode (node : Node) (read : NodeRead)
  | deleteNode (name : String)
  | updateNodeClaim (nodeClaim : NodeClaim)
  | deleteNodeClaim (name : String)
  | updatePod (pod : Pod) (volumes : Option Volumes)
  | deletePod (podKey : ObjectKey)
  | markForDeletion (providerIDs : List String)
  | unmarkForDeletion (providerIDs : List String)

namespace Cluster

variable (podDeletionCostManagement : Bool)

def step (c : Cluster) : Event → Option Cluster
  | .updateNode node read => c.updateNode podDeletionCostManagement node read
  | .deleteNode name => c.deleteNode name
  | .updateNodeClaim nodeClaim => c.updateNodeClaim nodeClaim
  | .deleteNodeClaim name => c.deleteNodeClaim name
  | .updatePod pod volumes => some (c.updatePod podDeletionCostManagement pod volumes)
  | .deletePod podKey => some (c.deletePod podKey)
  | .markForDeletion providerIDs => c.markForDeletion providerIDs
  | .unmarkForDeletion providerIDs => c.unmarkForDeletion providerIDs

def run (events : List Event) : Option Cluster := events.foldlM (step podDeletionCostManagement) {}

theorem run_concat (earlier : List Event) (event : Event) : run podDeletionCostManagement (earlier ++ [event]) =
      (run podDeletionCostManagement earlier).bind fun c => c.step podDeletionCostManagement event := by
  rw [run, run, List.foldlM_append]
  simp

end Cluster

/-- A name that has moved to a provider ID was not known under it. -/
theorem ne_getD_of_any {m : Map String String} {name id : String} (moved : (m.lookup name).any (· ≠ id) = true) :
    id ≠ (m.lookup name).getD "" := by
  cases found : m.lookup name with
  | none =>
    rw [found] at moved
    cases moved
  | some previous =>
    rw [found, Option.any_some, decide_eq_true_eq] at moved
    exact moved.symm

end Karpenter.State
