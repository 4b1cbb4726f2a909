import Karpenter.Go.Strconv
import Karpenter.Resources.ResourceList
import Karpenter.Scheduling.Pod

/-! A node of the cluster state: its Node and its NodeClaim, either of which may be missing, and what the pods
bound to it use. Requests, host ports, volumes and the cost of evicting each pod are kept up to date pod by pod.
Limits of pods, nominations and repair policies are left out. -/
namespace Karpenter.State

open Go (Map)
open Resources (ResourceList amount assign)
open Scheduling

def nodePoolLabelKey : String := "karpenter.sh/nodepool"
def nodeInitializedLabelKey : String := "karpenter.sh/initialized"
def nodeRegisteredLabelKey : String := "karpenter.sh/registered"
def labelInstanceTypeStable : String := "node.kubernetes.io/instance-type"
def disruptionCostAnnotationKey : String := "karpenter.sh/disruption-cost"
def podDeletionCost : String := "controller.kubernetes.io/pod-deletion-cost"

/-- A missing label reads as the empty text. -/
def label (labels : Map String String) (key : String) : String := (labels.lookup key).getD ""

structure Node where
  name : String
  providerID : String := ""
  labels : Map String String := ∅
  capacity : ResourceList := ∅
  deleting : Bool := false

structure NodeClaim where
  name : String
  providerID : String := ""
  labels : Map String String := ∅
  capacity : ResourceList := ∅
  deleting : Bool := false
  instanceTerminating : Bool := false

structure Pod where
  key : ObjectKey
  nodeName : String := ""
  terminal : Bool := false
  ownedByDaemonSet : Bool := false
  requests : ResourceList := ∅
  hostPorts : List HostPort := []
  annotations : Map String String := ∅
  priority : Option Int := none

/-- Reads an annotation as a 32-bit integer; a bad value is skipped. -/
def int32? (text : String) : Option Int :=
  (Go.integer? text).filter fun value => decide (-2 ^ 31 ≤ value) && decide (value < 2 ^ 31)

/-- The cost of evicting a pod, in exact arithmetic. With the gate on, the deletion cost of a pod is not a
statement of the user and is not read. -/
def evictionCost (podDeletionCostManagement : Bool) (pod : Pod) : ℚ :=
  let annotated := match pod.annotations.lookup disruptionCostAnnotationKey with
    | some text => int32? text
    | none =>
      if podDeletionCostManagement then none else (pod.annotations.lookup podDeletionCost).bind int32?
  let cost := 1 + annotated.elim 0 (fun value => (value : ℚ) / 2 ^ 27) +
    pod.priority.elim 0 (fun priority => (priority : ℚ) / 2 ^ 25)
  max (-10) (min cost 10)

/-- `podVersions` is a history variable that no operation reads: the version of each pod whose requests are
tracked. -/
structure StateNode where
  node : Option Node := none
  nodeClaim : Option NodeClaim := none
  daemonSetRequests : Map ObjectKey ResourceList := ∅
  podRequests : Map ObjectKey ResourceList := ∅
  podVersions : Map ObjectKey Pod := ∅
  podDisruptionCosts : Map ObjectKey ℚ := ∅
  hostPortUsage : HostPortUsage := ∅
  volumeUsage : VolumeUsage := {}
  markedForDeletion : Bool := false

namespace StateNode

variable (n : StateNode)

def managed : Bool := n.nodeClaim.isSome

/-- A managed node has a state once its Node carries the label; any other node has it always. -/
def carries (key : String) : Bool :=
  if n.managed then n.node.any fun node => decide (label node.labels key = "true") else true

def registered : Bool := n.carries nodeRegisteredLabelKey

def initialized : Bool := n.carries nodeInitializedLabelKey

/-- The labels of the Node, but those of the NodeClaim until the Node is registered. -/
def labels : Map String String :=
  match n.node, n.nodeClaim with
  | none, none => ∅
  | none, some claim => claim.labels
  | some node, none => node.labels
  | some node, some claim => if n.registered then node.labels else claim.labels

/-- What the Node reports, with zero quantities overridden from the NodeClaim until the Node is initialized. Every
node has a capacity of one node. -/
def capacity (n : StateNode) : ResourceList :=
  let reported := match n.initialized, n.node, n.nodeClaim with
    | false, some node, some claim => claim.capacity.entries.foldl (fun capacity entry =>
        if amount capacity entry.1 = 0 then capacity.insert entry.1 entry.2 else capacity) node.capacity
    | false, none, some claim => claim.capacity
    | _, node, _ => node.elim ∅ (·.capacity)
  assign reported (AList.insert Resources.node 1 ∅)

def deleted : Bool :=
  (n.nodeClaim.any fun claim => claim.deleting || claim.instanceTerminating) ||
    (n.nodeClaim.isNone && n.node.any (·.deleting))

def isMarkedForDeletion : Bool := n.markedForDeletion || n.deleted

def perNodeBaseDisruptionCost : ℚ := 1

def disruptionCost : ℚ :=
  perNodeBaseDisruptionCost + n.podDisruptionCosts.total fun _ cost => cost

/-- A pod of a daemonset has no cost of its own; what is recorded under its name stays. -/
def updateCosts (podDeletionCostManagement : Bool) (costs : Map ObjectKey ℚ) (pod : Pod) : Map ObjectKey ℚ :=
  if pod.ownedByDaemonSet then costs
  else
    let cost := evictionCost podDeletionCostManagement pod
    if 0 < cost then costs.insert pod.key cost else costs.erase pod.key

/-- Reading the volumes of the pod has succeeded; if it fails, nothing is changed. -/
def updateForPod (podDeletionCostManagement : Bool) (n : StateNode) (pod : Pod) (volumes : Volumes) : StateNode :=
  { n with
    podRequests := n.podRequests.insert pod.key pod.requests
    podVersions := n.podVersions.insert pod.key pod
    daemonSetRequests :=
      if pod.ownedByDaemonSet then n.daemonSetRequests.insert pod.key pod.requests else n.daemonSetRequests
    podDisruptionCosts := updateCosts podDeletionCostManagement n.podDisruptionCosts pod
    hostPortUsage := n.hostPortUsage.add pod.key pod.hostPorts
    volumeUsage := n.volumeUsage.add pod.key volumes }

def cleanupForPod (podKey : ObjectKey) : StateNode :=
  { n with
    hostPortUsage := AList.erase podKey n.hostPortUsage
    volumeUsage := n.volumeUsage.deletePod podKey
    podRequests := n.podRequests.erase podKey
    podVersions := n.podVersions.erase podKey
    daemonSetRequests := n.daemonSetRequests.erase podKey
    podDisruptionCosts := n.podDisruptionCosts.erase podKey }

end StateNode

end Karpenter.State
