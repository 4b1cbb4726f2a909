import Karpenter.Provisioning.CanAdd

/-! One scheduling loop over in-flight NodeClaims: a pod goes to the first NodeClaim that accepts it, or to
a new one from the first template whose NodePool still has resources left. Templates are tried in order,
which is what the parallel search of the source amounts to: it keeps the least index. Placements on
existing nodes do not change this state and are left out, as are the relaxation of a pod's preferences
(any pod may be tried next) and the errors of pods that find no place. -/
namespace Karpenter.Provisioning

open Go (Map)
open CloudProvider
open Resources (ResourceList amount maxResources assign node)
open Scheduling

/-- A node of the cluster state, with the capacities its Node and its NodeClaim report. -/
structure StateNode where
  nodePool : String
  initialized : Bool := true
  node : Option ResourceList
  nodeClaim : Option ResourceList := none

/-- Until a node is initialized, what it reports as zero is taken from its NodeClaim; every node has a
capacity of one node. -/
def StateNode.capacity (n : StateNode) : ResourceList :=
  let reported := match n.initialized, n.node, n.nodeClaim with
    | false, some reported, some promised => promised.entries.foldl (fun capacity entry =>
        if amount capacity entry.1 = 0 then capacity.insert entry.1 entry.2 else capacity) reported
    | false, none, some promised => promised
    | _, reported, _ => reported.getD ∅
  assign reported (AList.insert Resources.node 1 ∅)

/-- Nothing is left over for an instance type that exceeds some remaining resource. -/
def filterByRemainingResources (instanceTypes : List InstanceType) (remaining : ResourceList) :
    List InstanceType :=
  instanceTypes.filter fun it => remaining.entries.all fun entry =>
    decide (amount it.capacity entry.1 ≤ entry.2)

/-- The largest instance type is assumed to be launched. -/
def subtractMax (remaining : ResourceList) (instanceTypes : List InstanceType) : ResourceList :=
  if instanceTypes.isEmpty then remaining
  else Resources.subtract remaining (maxResources (instanceTypes.map (·.capacity)))

def updateRemainingResources (remainingResources : Map String ResourceList) (n : StateNode) :
    Map String ResourceList :=
  match remainingResources.lookup n.nodePool with
  | none => remainingResources
  | some remaining => remainingResources.insert n.nodePool (Resources.subtract remaining n.capacity)

structure Scheduler where
  nodeClaimTemplates : List (NodeClaimTemplate × List DaemonOverheadGroup)
  reservedOfferingMode : ReservedOfferingMode := .fallback
  creditReservationCapacity : Map String Int := ∅
  bestEffortMinValues : Bool := false
  newNodeClaims : List NodeClaim := []
  remainingResources : Map String ResourceList
  reservationManager : ReservationManager := {}

/-- A pod to place: its data, its volumes, the collaborators that answer for each NodeClaim and the
placeholder names drawn for new NodeClaims. -/
structure Attempt where
  pod : Pod
  podData : PodData
  volumes : Volumes := ∅
  collaborators : NodeClaim → Collaborators
  hostname : Nat → String

/-- The first NodeClaim that accepts the pod; minimums are not relaxed here. -/
def placeInflight (settings : Settings) (rm : ReservationManager) (a : Attempt) :
    List NodeClaim → Option (Option (List NodeClaim × ReservationManager))
  | [] => some none
  | n :: rest =>
    match n.canAdd settings rm (a.collaborators n) a.pod a.podData a.volumes false with
    | none => none
    | some (.error _) =>
      (placeInflight settings rm a rest).map fun found => found.map fun (claims, rm) => (n :: claims, rm)
    | some (.ok result) =>
      (n.add settings rm a.pod a.podData a.volumes result).map fun (placed, rm) => some (placed :: rest, rm)

namespace Scheduler

variable (settings : Settings)

variable (s : Scheduler)

/-- The instance types of a template that the limits of its NodePool leave over, if any. -/
def optionsWithinLimits (template : NodeClaimTemplate) : Option (List InstanceType) :=
  match s.remainingResources.lookup template.nodePoolName with
  | none => some template.instanceTypeOptions
  | some remaining =>
    if remaining.lookup node = some 0 then none
    else
      let its := filterByRemainingResources template.instanceTypeOptions remaining
      if its.isEmpty then none else some its

def draft (a : Attempt) (index : Nat) (template : NodeClaimTemplate) (groups : List DaemonOverheadGroup)
    (its : List InstanceType) : NodeClaim :=
  newNodeClaim template groups its s.reservedOfferingMode s.creditReservationCapacity (a.hostname index)

def tryDraft (a : Attempt) (n : NodeClaim) : Option (Except CanAddError CanAddResult) :=
  n.canAdd settings s.reservationManager (a.collaborators n) a.pod a.podData a.volumes s.bestEffortMinValues

/-- A pod that has to wait for reserved capacity does not fall through to a later template. -/
def tryTemplates (s : Scheduler) (a : Attempt) :
    Nat → List (NodeClaimTemplate × List DaemonOverheadGroup) → Option (Option (NodeClaim × CanAddResult))
  | _, [] => some none
  | index, (template, groups) :: rest =>
    match s.optionsWithinLimits template with
    | none => tryTemplates s a (index + 1) rest
    | some its =>
      match s.tryDraft settings a (s.draft a index template groups its) with
      | none => none
      | some (.error err) =>
        if isReservedOfferingError err then some none else tryTemplates s a (index + 1) rest
      | some (.ok result) => some (some (s.draft a index template groups its, result))

def addToInflightNode (a : Attempt) : Option (Option Scheduler) :=
  (placeInflight settings s.reservationManager a s.newNodeClaims).map fun found =>
    found.map fun (claims, rm) => { s with newNodeClaims := claims, reservationManager := rm }

def addToNewNodeClaim (a : Attempt) : Option (Option Scheduler) :=
  match s.tryTemplates settings a 0 s.nodeClaimTemplates with
  | none => none
  | some none => some none
  | some (some (n, result)) =>
    (n.add settings s.reservationManager a.pod a.podData a.volumes result).map fun (placed, rm) =>
      some { s with
        newNodeClaims := s.newNodeClaims ++ [placed]
        remainingResources := s.remainingResources.insert placed.nodePoolName
          (subtractMax ((s.remainingResources.lookup placed.nodePoolName).getD ∅) placed.instanceTypeOptions)
        reservationManager := rm }

/-- The state after a new NodeClaim was created; the same state when none was. -/
def afterCreation (a : Attempt) : Scheduler :=
  ((s.addToNewNodeClaim settings a).getD none).getD s

variable {settings} in
theorem addToNewNodeClaim_eq {s : Scheduler} (creates : ((s.addToNewNodeClaim settings a).getD none).isSome = true) :
    s.addToNewNodeClaim settings a = some (some (s.afterCreation settings a)) := by
  unfold afterCreation
  match s.addToNewNodeClaim settings a, creates with
  | some (some _), _ => rfl

variable {settings} in
theorem addToInflightNode_eq_none {s : Scheduler} (refused : (s.addToInflightNode settings a).any (·.isNone) = true) :
    s.addToInflightNode settings a = some none := by
  match s.addToInflightNode settings a, refused with
  | some none, _ => rfl

/-- Between pods the NodeClaims are sorted by their number of pods, in an unstable way. A new NodeClaim is
considered only when no in-flight one accepts the pod. -/
inductive Step (guard : Scheduler → Attempt → Prop) : Scheduler → Scheduler → Prop where
  | sort {s : Scheduler} {claims : List NodeClaim} (order : claims.Perm s.newNodeClaims) :
      Step guard s { s with newNodeClaims := claims }
  | inflight {s next : Scheduler} (a : Attempt) (placed : s.addToInflightNode settings a = some (some next)) :
      Step guard s next
  | fresh {s next : Scheduler} (a : Attempt) (refused : s.addToInflightNode settings a = some none)
      (allowed : guard s a) (placed : s.addToNewNodeClaim settings a = some (some next)) : Step guard s next

/-- Every state a loop can go through. -/
def Reaches (guard : Scheduler → Attempt → Prop) : Scheduler → Scheduler → Prop :=
  Relation.ReflTransGen (Step settings guard)

end Scheduler

/-- The NodeClaims of a loop and the pods that found no place. -/
structure Results where
  newNodeClaims : List NodeClaim
  podErrors : List Pod

/-- What a loop returns once it ends: every NodeClaim is finalized. -/
def Scheduler.results (settings : Settings) (s : Scheduler) (podErrors : List Pod) : Results where
  newNodeClaims := s.newNodeClaims.map (·.finalizeScheduling settings)
  podErrors := podErrors

def maxInstanceTypes : Nat := 600

namespace Results

/-- The NodeClaim with its cheapest options, unless they miss a minimum. -/
def truncateNodeClaim (registry : Registry) (bestEffort : Bool) (n : NodeClaim) : Option NodeClaim :=
  (truncate registry n.instanceTypeOptions n.requirements maxInstanceTypes bestEffort).map fun its =>
    { n with instanceTypeOptions := its }

/-- A NodeClaim that misses a minimum is dropped and its pods are reported. -/
def truncateInstanceTypes (registry : Registry) (bestEffort : Bool) (r : Results) : Results where
  newNodeClaims := r.newNodeClaims.filterMap (truncateNodeClaim registry bestEffort)
  podErrors := r.podErrors ++
    (r.newNodeClaims.filter fun n => (truncateNodeClaim registry bestEffort n).isNone).flatMap (·.pods)

/-- Pods that had no node before do not count. -/
def allNonPendingPodsScheduled (r : Results) : Bool := r.podErrors.all (·.provisionable)

end Results

end Karpenter.Provisioning
